import Passage.Pool

/- A pool together with the objects it has lent out, by the slot that holds them.

   A slot that acquires while it holds an object gets the new one first and
   gives the old one back after. -/
namespace Passage

/-- Objects with calls on them. -/
class Callable (α : Type) (ω ρ : outParam Type) where
  apply : α → ω → ρ × α

structure Lending (σ α : Type) where
  pool : Pool α
  held : List (σ × α)

namespace Lending

variable {σ α ω ρ : Type} [DecidableEq σ]

def ofPool (pool : Pool α) : Lending σ α := ⟨pool, []⟩

/-- The object a slot holds. -/
def object? (l : Lending σ α) (slot : σ) : Option α := l.held.lookup slot

/-- The slots' objects with `slot` left out. -/
def without (l : Lending σ α) (slot : σ) : List (σ × α) := l.held.filter (·.1 ≠ slot)

def acquire [Reusable α] (l : Lending σ α) (slot : σ) : Lending σ α :=
  let (x, pool) := l.pool.acquire
  let pool := match l.object? slot with
    | some old => pool.release old
    | none => pool
  ⟨pool, (slot, x) :: l.without slot⟩

/-- Gives a slot's object back; an empty slot stays empty. -/
def release [Reusable α] (l : Lending σ α) (slot : σ) : Lending σ α :=
  match l.object? slot with
  | some x => ⟨l.pool.release x, l.without slot⟩
  | none => l

/-! ## Runs -/

/-- One step of a pool's users. -/
inductive Op (σ ω : Type) where
  | acquire (slot : σ)
  | release (slot : σ)
  | use (slot : σ) (call : ω)
  /-- Looks at the pool, and changes nothing. -/
  | look

/-- What a step gives back. -/
inductive Reply (ρ : Type) where
  | done
  | answer (r : ρ)
  /-- The slot holds nothing that could be used. -/
  | unheld

def apply [Reusable α] [Callable α ω ρ] (l : Lending σ α) : Op σ ω → Reply ρ × Lending σ α
  | .acquire slot => (.done, l.acquire slot)
  | .release slot => (.done, l.release slot)
  | .look => (.done, l)
  | .use slot call =>
    match l.object? slot with
    | none => (.unheld, l)
    | some x =>
      let (r, x) := Callable.apply x call
      (.answer r, { l with held := (slot, x) :: l.without slot })

/-- The pool and its loans after a list of steps. -/
def run [Reusable α] [Callable α ω ρ] (l : Lending σ α) (ops : List (Op σ ω)) : Lending σ α :=
  ops.foldl (fun l op => (l.apply op).2) l

end Lending
end Passage
