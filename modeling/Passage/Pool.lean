/- A pool that lends objects and keeps the returned ones for the next user.

   An object that comes back is reset first and kept only while fewer than
   `maxIdle` lie idle. The one returned last is lent first, and a new one is
   built only when none is idle. -/
namespace Passage

/-- Objects that can be made as good as new. -/
class Reusable (α : Type) where
  reset : α → α

structure Pool (α : Type) where
  /-- Builds the object of a serial number. -/
  make : Nat → α
  maxIdle : Nat
  /-- The idle objects, the one returned last in front. -/
  idle : List α
  /-- How many objects were built so far. -/
  built : Nat

namespace Pool

variable {α β : Type}

/-- An empty pool. -/
def withMaxIdle (make : Nat → α) (maxIdle : Nat) : Pool α := ⟨make, maxIdle, [], 0⟩

/-- How many objects a pool keeps unless told otherwise. -/
abbrev defaultMaxIdle : Nat := 1024

def ofMake (make : Nat → α) : Pool α := withMaxIdle make defaultMaxIdle

def acquire (p : Pool α) : α × Pool α :=
  match p.idle with
  | x :: rest => (x, { p with idle := rest })
  | [] => (p.make p.built, { p with built := p.built + 1 })

def release [Reusable α] (p : Pool α) (x : α) : Pool α :=
  if p.idle.length < p.maxIdle then { p with idle := Reusable.reset x :: p.idle } else p

/-- Lends an object for one use and takes it back as the use left it. -/
def lend [Reusable α] (p : Pool α) (use : α → β × α) : β × Pool α :=
  let (x, p) := p.acquire
  let (answer, x) := use x
  (answer, p.release x)

/-- The pool in words. -/
def describe (p : Pool α) : String :=
  "Pool \x7b idle: " ++ toString p.idle.length ++ ", max_idle: " ++ toString p.maxIdle ++ " \x7d"

end Pool
end Passage
