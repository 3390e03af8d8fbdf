import Passage.Bytes
import Passage.Level
import Passage.Rejection

/- Counters of token checks and of policy runs.

   A series is a counter with its labels, and `record` adds one to it. A
   counter finds its series by a fingerprint of their label values: two series
   whose values make up the same text are counted together, under the labels
   of the one that came first. -/
namespace Passage

/-! ## Fingerprints -/

namespace Fnv

def offsetBasis : UInt64 := 0xcbf29ce484222325

def prime : UInt64 := 0x100000001b3

/-- FNV-1a in 64 bits: a short fingerprint, which keeps no secrets. -/
def digest (bs : Bytes) : UInt64 :=
  bs.foldl (fun h b => (h ^^^ b.toUInt64) * prime) offsetBasis

end Fnv

/-! ## Series -/

/-- One combination of labels of a counter. -/
inductive Series where
  | validation (frontend outcome : String)
  | challenge (frontend : String) (policy : Policy) (outcome : String)
  deriving DecidableEq, Repr

namespace Series

def name : Series → String
  | validation .. => "berghain_validations_total"
  | challenge .. => "berghain_challenges_total"

def help : Series → String
  | validation .. => "Total token validations"
  | challenge .. => "Total validator runs"

/-- The labels in the order of their names. -/
def labels : Series → List (String × String)
  | validation frontend outcome => [("frontend", frontend), ("outcome", outcome)]
  | challenge frontend policy outcome =>
    [("frontend", frontend), ("outcome", outcome), ("validator", policy.name)]

/-- The label values in the order in which their counter declares them, one behind the other. -/
def values : Series → String
  | validation frontend outcome => frontend ++ outcome
  | challenge frontend policy outcome => frontend ++ policy.name ++ outcome

/-- What a counter finds a series by. -/
def fingerprint (s : Series) : UInt64 := Fnv.digest (Bytes.ofText s.values)

/-- Whether two series are counted together. -/
def meets (s t : Series) : Bool := s.name = t.name && s.fingerprint = t.fingerprint

/-- What series are sorted by. -/
def key (s : Series) : List String := s.name :: s.labels.flatMap fun (label, value) => [label, value]

/-- The order of keys: the first text that differs decides. -/
def keyLe : List String → List String → Bool
  | [], _ => true
  | _ :: _, [] => false
  | a :: as, b :: bs => a < b || (a = b && keyLe as bs)

end Series

/-- The outcome label of a result. -/
def outcomeLabel : Outcome → String
  | .ok () => "ok"
  | .error r => r.code

/-- The outcome label of a check on a level that is switched off. -/
def disabledLabel : String := "disabled"

/-- The counts of all series that were counted at least once. -/
structure Metrics where
  counts : List (Series × Nat)
  deriving DecidableEq, Repr

namespace Metrics

def empty : Metrics := ⟨[]⟩

/-- Adds one to the entry that a series is counted in, or begins it. -/
def bump (s : Series) : List (Series × Nat) → List (Series × Nat)
  | [] => [(s, 1)]
  | (t, n) :: rest => if t.meets s then (t, n + 1) :: rest else (t, n) :: bump s rest

/-- Counts one event of a series. -/
def record (m : Metrics) (s : Series) : Metrics := ⟨bump s m.counts⟩

/-- How many events were counted where a series is counted. -/
def count (m : Metrics) (s : Series) : Nat :=
  match m.counts.find? (·.1.meets s) with
  | some (_, n) => n
  | none => 0

/-- All counts in the order of counter names and labels. -/
def samples (m : Metrics) : List (Series × Nat) :=
  m.counts.mergeSort fun a b => Series.keyLe a.1.key b.1.key

/-! ## Registries -/

/-- The counters known by name. -/
structure Registry where
  names : List String
  deriving DecidableEq, Repr

/-- Why counters are not taken into a registry. -/
inductive RegistryFault where
  | duplicate (name : String)
  deriving DecidableEq, Repr

def RegistryFault.message : RegistryFault → String
  | duplicate _ => "Duplicate metrics collector registration attempted"

def Registry.empty : Registry := ⟨[]⟩

/-- Takes a counter into a registry that has none of its name. -/
def Registry.add (r : Registry) (name : String) : Except RegistryFault Registry :=
  if name ∈ r.names then .error (.duplicate name) else .ok ⟨name :: r.names⟩

/-- Counters at zero, taken into a registry. -/
def register (r : Registry) : Except RegistryFault (Metrics × Registry) := do
  let r ← r.add (Series.validation "" "").name
  let r ← r.add (Series.challenge "" .none "").name
  return (empty, r)

end Metrics
end Passage
