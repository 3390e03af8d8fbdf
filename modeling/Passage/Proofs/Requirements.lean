import Passage.Rejection

/- Requirements that are looked at in order.

   A list of requirements is met, or it has a first one that is not and whose
   cause is the outcome. `firstUnmet_ok_iff` and `firstUnmet_error_iff` say so
   without the order of evaluation. -/
namespace Passage

/-- A condition, and the cause that is told where it does not hold. -/
structure Requirement where
  met : Bool
  otherwise : Rejection

/-- The cause of the first requirement that is not met, if there is one. -/
def firstUnmet : List Requirement → Outcome
  | [] => .ok ()
  | q :: rest => if q.met then firstUnmet rest else .error q.otherwise

theorem firstUnmet_cons (p : Prop) [Decidable p] (r : Rejection) (rest : List Requirement) :
    firstUnmet (⟨p, r⟩ :: rest) = if p then firstUnmet rest else .error r := by
  by_cases h : p <;> simp [firstUnmet, h]

@[simp] theorem firstUnmet_nil_ok : firstUnmet [] = .ok () := rfl

@[simp] theorem firstUnmet_cons_ok_iff (p : Prop) [Decidable p] (r : Rejection)
    (rest : List Requirement) :
    firstUnmet (⟨p, r⟩ :: rest) = .ok () ↔ p ∧ firstUnmet rest = .ok () := by
  rw [firstUnmet_cons]
  by_cases h : p <;> simp [h]

theorem firstUnmet_cons_error_iff (p : Prop) [Decidable p] (r s : Rejection)
    (rest : List Requirement) :
    firstUnmet (⟨p, r⟩ :: rest) = .error s ↔ (¬p ∧ r = s) ∨ (p ∧ firstUnmet rest = .error s) := by
  rw [firstUnmet_cons]
  by_cases h : p <;> simp [h]

theorem firstUnmet_ok_iff (qs : List Requirement) :
    firstUnmet qs = .ok () ↔ ∀ q ∈ qs, q.met = true := by
  induction qs with
  | nil => simp [firstUnmet]
  | cons q qs ih =>
    rw [firstUnmet, List.forall_mem_cons, ← ih]
    cases q.met <;> simp

theorem firstUnmet_error_iff (qs : List Requirement) (r : Rejection) :
    firstUnmet qs = .error r ↔ ∃ before q after, qs = before ++ q :: after ∧
      (∀ p ∈ before, p.met = true) ∧ q.met = false ∧ q.otherwise = r := by
  induction qs with
  | nil => simp [firstUnmet]
  | cons p qs ih =>
    rw [firstUnmet]
    cases hp : p.met with
    | true =>
      rw [if_pos rfl, ih]
      constructor
      · rintro ⟨before, q, after, rfl, hb, hq, hr⟩
        exact ⟨p :: before, q, after, rfl, List.forall_mem_cons.mpr ⟨hp, hb⟩, hq, hr⟩
      · rintro ⟨before, q, after, he, hb, hq, hr⟩
        cases before with
        | nil =>
          obtain ⟨rfl, -⟩ := List.cons.inj he
          rw [hp] at hq
          cases hq
        | cons b before =>
          obtain ⟨-, rfl⟩ := List.cons.inj he
          exact ⟨before, q, after, rfl, (List.forall_mem_cons.mp hb).2, hq, hr⟩
    | false =>
      rw [if_neg Bool.false_ne_true, Except.error.injEq]
      constructor
      · rintro rfl
        exact ⟨[], p, qs, rfl, fun _ h => absurd h List.not_mem_nil, hp, rfl⟩
      · rintro ⟨before, q, after, he, hb, -, hr⟩
        -- Nothing stands before a requirement that is not met at the head of the list.
        cases before with
        | nil =>
          obtain ⟨rfl, -⟩ := List.cons.inj he
          exact hr
        | cons b before =>
          obtain ⟨rfl, -⟩ := List.cons.inj he
          have hpt := hb p List.mem_cons_self
          rw [hp] at hpt
          cases hpt

/-- The outcome is good exactly if every requirement is met, and tells a cause exactly if that is
the cause of the first requirement that is not. -/
structure DecidedBy (qs : List Requirement) (outcome : Outcome) : Prop where
  ok_iff : outcome = .ok () ↔ ∀ q ∈ qs, q.met = true
  error_iff : ∀ r, outcome = .error r ↔ ∃ before q after, qs = before ++ q :: after ∧
    (∀ p ∈ before, p.met = true) ∧ q.met = false ∧ q.otherwise = r

theorem decidedBy_firstUnmet (qs : List Requirement) : DecidedBy qs (firstUnmet qs) :=
  ⟨firstUnmet_ok_iff qs, firstUnmet_error_iff qs⟩

/-- Only causes that the list names are told. -/
theorem firstUnmet_cause {qs : List Requirement} {r : Rejection} (h : firstUnmet qs = .error r) :
    r ∈ qs.map Requirement.otherwise := by
  obtain ⟨before, q, after, rfl, -, -, rfl⟩ := (firstUnmet_error_iff qs r).mp h
  exact List.mem_map.mpr ⟨q, by simp, rfl⟩

end Passage
