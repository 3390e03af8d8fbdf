import Passage.Frontend

/- Frontends by name, with one that answers for all other names.

   A name that is not UTF-8 is nobody's.

   The clock and the counters are the instance's own. One clock is enough:
   engines are built with the same one, and a call reads it once, so calls on
   clocks of their own are calls on one that is set in between. One set of
   counters is enough: it is attached to all frontends at once. -/
namespace Passage

structure Instance where
  fallback : Frontend
  named : List Frontend
  clock : Clock
  metrics : Option Metrics

namespace Instance

/-- An instance that sends everything to one frontend. -/
def ofFallback (fallback : Frontend) (clock : Clock) : Instance := ⟨fallback, [], clock, none⟩

/-- Adds a frontend under its name, in place of one of the same name. -/
def withFrontend (i : Instance) (f : Frontend) : Instance :=
  { i with named := f :: i.named.filter (·.name ≠ f.name) }

/-- Starts to count. -/
def withMetrics (i : Instance) : Instance := { i with metrics := some .empty }

/-- Number of frontends, the fallback among them. -/
def size (i : Instance) : Nat := i.named.length + 1

/-- The frontend of exactly this name, if one was added. -/
def named? (i : Instance) (target : Bytes) : Option Frontend :=
  match Bytes.text? target with
  | none => none
  | some name => i.named.find? (·.name = name)

/-- The frontend that answers for a name. -/
def route (i : Instance) (target : Bytes) : Frontend := (i.named? target).getD i.fallback

/-- Puts the frontend that answers for a name back after use. -/
def putBack (i : Instance) (target : Bytes) (f : Frontend) : Instance :=
  match i.named? target with
  | none => { i with fallback := f }
  | some _ => { i with named := i.named.map fun g => if g.name = f.name then f else g }

/-- Counts one event, if this instance counts. -/
def record (i : Instance) (s : Series) : Instance :=
  { i with metrics := i.metrics.map (·.record s) }

/-- Checks a token at the frontend of a name. -/
def validate (i : Instance) (target : Bytes) (fields : Fields) (cookie : Bytes) :
    Except FieldFault (String × Verdict) × Instance :=
  let (answer, f) := (i.route target).validate i.clock fields cookie
  let i := i.putBack target f
  match answer with
  | .error fault => (.error fault, i)
  | .ok verdict => (.ok (f.name, verdict), i.record (.validation f.name verdict.label))

/-- Runs a policy at the frontend of a name. -/
def challenge (i : Instance) (target : Bytes) (fields : Fields) (method body : Bytes) :
    Except FieldFault (Option (String × Answer)) × Instance :=
  let (answer, f) := (i.route target).challenge i.clock fields method body
  let i := i.putBack target f
  match answer with
  | .error fault => (.error fault, i)
  | .ok none => (.ok none, i)
  | .ok (some a) =>
    (.ok (some (f.name, a)), i.record (.challenge f.name a.policy (outcomeLabel a.outcome)))

/-! ## Runs -/

/-- One call. -/
inductive Op where
  | clock (op : Clock.Op)
  | validate (target : Bytes) (fields : Fields) (cookie : Bytes)
  | challenge (target : Bytes) (fields : Fields) (method body : Bytes)
  deriving DecidableEq, Repr

/-- What a call gives back. -/
inductive Reply where
  | clock (expiry : Option Nat)
  | validated (answer : Except FieldFault (String × Verdict))
  | challenged (answer : Except FieldFault (Option (String × Answer)))

def apply (i : Instance) : Op → Reply × Instance
  | .clock op =>
    let (expiry, clock) := i.clock.apply op
    (.clock expiry, { i with clock })
  | .validate target fields cookie =>
    let (answer, i) := i.validate target fields cookie
    (.validated answer, i)
  | .challenge target fields method body =>
    let (answer, i) := i.challenge target fields method body
    (.challenged answer, i)

/-- The answers to a list of calls. -/
def replies (i : Instance) : List Op → List Reply
  | [] => []
  | op :: rest => let (reply, i) := i.apply op; reply :: i.replies rest

/-- The instance after a list of calls. -/
def run (i : Instance) (ops : List Op) : Instance :=
  ops.foldl (fun i op => (i.apply op).2) i

end Instance
end Passage
