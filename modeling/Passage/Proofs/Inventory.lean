import Passage.Proofs.Isolation
import Passage.Proofs.Renewal
import Passage.Proofs.Stock

/- The objects of a pool and of its users.

   1. Every step of the users keeps the pool accounted for, with the objects in use as those
      that are out (`Lending.Accounted.apply`), and so does any list of steps from an empty
      pool (`Lending.accounted_stocked`).
   2. Numbers are for the books only: without them a run is the run of the pool itself
      (`Lending.run_bare`).
   3. What an account says of the users is `Lending.Balanced`: no object is in two hands, the
      one that came back last is lent first, and only what comes back to a full pool goes. -/
namespace Passage

variable {σ α ω ρ : Type}

namespace Lending

def inUse (l : Lending σ (Numbered α)) : List Nat := l.held.map fun p => p.2.number

theorem length_inUse (l : Lending σ (Numbered α)) : l.inUse.length = l.held.length :=
  List.length_map ..

variable [DecidableEq σ]

/-- A slot that holds an object and the other slots are all there are. -/
theorem perm_held (l : Lending σ α) (hslots : l.slots.Nodup) {slot : σ} {x : α}
    (hx : l.object? slot = some x) : ((slot, x) :: l.without slot).Perm l.held := by
  obtain ⟨before, after, hsplit, -⟩ := List.lookup_eq_some_iff.mp hx
  have hkeep : ∀ part : List (σ × α), slot ∉ part.map Prod.fst →
      part.filter (fun p => p.1 ≠ slot) = part := fun part hpart =>
    List.filter_eq_self.mpr fun p hp => decide_eq_true fun heq =>
      hpart (heq ▸ List.mem_map_of_mem hp)
  rw [slots, hsplit, List.map_append, List.map_cons, List.nodup_middle, List.nodup_cons,
    List.mem_append, not_or] at hslots
  obtain ⟨⟨hbefore, hafter⟩, -⟩ := hslots
  have hwithout : l.without slot = before ++ after := by
    rw [without, hsplit, List.filter_append, List.filter_cons_of_neg (by simp), hkeep before hbefore,
      hkeep after hafter]
  rw [hwithout, hsplit]
  exact List.perm_middle.symm

theorem without_of_none (l : Lending σ α) {slot : σ} (hnone : l.object? slot = none) :
    l.without slot = l.held := by
  have hslot := (l.object?_eq_none_iff slot).mp hnone
  refine List.filter_eq_self.mpr fun p hp => decide_eq_true fun heq => ?_
  exact hslot (heq ▸ List.mem_map_of_mem hp)

theorem mem_held (l : Lending σ α) (hslots : l.slots.Nodup) {slot : σ} {x : α}
    (hx : l.object? slot = some x) : (slot, x) ∈ l.held :=
  (l.perm_held hslots hx).mem_iff.mp List.mem_cons_self

theorem perm_inUse (l : Lending σ (Numbered α)) (hslots : l.slots.Nodup) {slot : σ} {x : Numbered α}
    (hx : l.object? slot = some x) :
    (x.number :: (l.without slot).map fun p => p.2.number).Perm l.inUse :=
  (l.perm_held hslots hx).map fun p : σ × Numbered α => p.2.number

/-- The object that a step gives back, and the pool that it comes back to. A slot that acquires
gives back what it held after it has taken the new object. -/
def returning (l : Lending σ α) : Op σ ω → Option (α × Pool α)
  | .acquire slot => (l.object? slot).map fun x => (x, l.pool.acquire.2)
  | .release slot => (l.object? slot).map fun x => (x, l.pool)
  | .use .. | .look => none

/-- The record once a step has taken what it takes. -/
def taking (l : Lending σ α) (r : Record) : Op σ ω → Record
  | .acquire _ => r.took l.held.length
  | .release _ | .use .. | .look => r

/-- What a step does to the record. -/
def record (l : Lending σ (Numbered α)) (r : Record) (step : Op σ ω) : Record :=
  match l.returning step with
  | some (x, p) => (l.taking r step).gave p x
  | none => l.taking r step

def recordRun [Reusable α] [Callable α ω ρ] (l : Lending σ (Numbered α)) (r : Record) :
    List (Op σ ω) → Record
  | [] => r
  | step :: steps => (l.apply step).2.recordRun (l.record r step) steps

/-- Every slot holds at most one object, and the pool is accounted for with the objects in use. -/
structure Accounted (maxIdle : Nat) (l : Lending σ (Numbered α)) (r : Record) : Prop where
  slots : l.slots.Nodup
  pool : l.pool.Accounted maxIdle l.inUse r

namespace Accounted
variable {maxIdle : Nat} {l : Lending σ (Numbered α)} {r : Record} [Reusable α]

theorem acquire (h : l.Accounted maxIdle r) (slot : σ) :
    (l.acquire slot).Accounted maxIdle (l.record r (.acquire slot : Op σ ω)) := by
  have hlent := h.pool.acquire
  rw [length_inUse] at hlent
  refine ⟨?_, ?_⟩
  · rw [slots_acquire]
    exact List.nodup_cons.mpr ⟨by simp, h.slots.filter _⟩
  · rw [Lending.acquire, record, returning, inUse]
    cases hold : l.object? slot with
    | none =>
      rw [l.without_of_none hold]
      exact hlent
    | some old =>
      -- The new object and the old one are both out when the old one comes back.
      have hout : (old.number :: l.pool.acquire.1.number ::
          (l.without slot).map fun p => p.2.number).Perm (l.pool.acquire.1.number :: l.inUse) :=
        (List.Perm.swap ..).trans ((l.perm_inUse h.slots hold).cons _)
      exact hlent.release hout

theorem release (h : l.Accounted maxIdle r) (slot : σ) :
    (l.release slot).Accounted maxIdle (l.record r (.release slot : Op σ ω)) := by
  refine ⟨?_, ?_⟩
  · rw [slots_release]
    exact h.slots.filter _
  · rw [Lending.release, record, returning]
    cases hold : l.object? slot with
    | none => exact h.pool
    | some x => exact h.pool.release (l.perm_inUse h.slots hold)

variable [Callable α ω ρ]

theorem use (h : l.Accounted maxIdle r) (slot : σ) (call : ω) :
    (l.apply (.use slot call)).2.Accounted maxIdle r := by
  rw [Lending.apply]
  cases hold : l.object? slot with
  | none => exact h
  | some x =>
    -- A call leaves the number as it is.
    have hout := l.perm_inUse h.slots hold
    have hslots := (l.perm_held h.slots hold).map Prod.fst
    exact ⟨hslots.nodup_iff.mpr h.slots, h.pool.perm hout⟩

theorem apply (h : l.Accounted maxIdle r) (step : Op σ ω) :
    (l.apply step).2.Accounted maxIdle (l.record r step) := by
  cases step with
  | acquire slot => exact h.acquire slot
  | release slot => exact h.release slot
  | look => exact h
  | use slot call => exact h.use slot call

theorem run (h : l.Accounted maxIdle r) (steps : List (Op σ ω)) :
    (l.run steps).Accounted maxIdle (l.recordRun r steps) := by
  induction steps generalizing l r with
  | nil => exact h
  | cons step steps ih => exact ih (h.apply step)

end Accounted

/-! Without numbers. -/

/-- The same pool and loans, without the numbers. -/
def bare (l : Lending σ (Numbered α)) : Lending σ α :=
  ⟨l.pool.bare, l.held.map fun p => (p.1, p.2.object)⟩

theorem object?_bare (l : Lending σ (Numbered α)) (slot : σ) :
    l.bare.object? slot = (l.object? slot).map Numbered.object := by
  rw [object?, object?, bare]
  induction l.held with
  | nil => rfl
  | cons p held ih =>
    rw [List.map_cons, List.lookup_cons, List.lookup_cons, ih]
    cases slot == p.1 <;> rfl

theorem without_bare (l : Lending σ (Numbered α)) (slot : σ) :
    l.bare.without slot = (l.without slot).map fun p => (p.1, p.2.object) := by
  have hheld : l.bare.held = l.held.map fun p => (p.1, p.2.object) := rfl
  rw [without, without, hheld, List.filter_map]
  rfl

section Steps
variable [Reusable α] (l : Lending σ (Numbered α))

theorem acquire_bare (slot : σ) : l.bare.acquire slot = (l.acquire slot).bare := by
  have hpool : l.bare.pool = l.pool.bare := rfl
  rw [acquire, acquire, hpool, Pool.acquire_bare, object?_bare, without_bare]
  cases l.object? slot with
  | none => rfl
  | some old =>
    simp only [Option.map_some, Pool.release_bare]
    rfl

theorem release_bare (slot : σ) : l.bare.release slot = (l.release slot).bare := by
  have hpool : l.bare.pool = l.pool.bare := rfl
  rw [release, release, hpool, object?_bare, without_bare]
  cases l.object? slot with
  | none => rfl
  | some old =>
    simp only [Option.map_some, Pool.release_bare]
    rfl

/-- Without the numbers a step is the same step, with the same answer. -/
theorem apply_bare [Callable α ω ρ] (step : Op σ ω) :
    l.bare.apply step = ((l.apply step).1, (l.apply step).2.bare) := by
  cases step with
  | acquire slot => exact congrArg (Prod.mk _) (l.acquire_bare slot)
  | release slot => exact congrArg (Prod.mk _) (l.release_bare slot)
  | look => rfl
  | use slot call =>
    rw [apply, apply, object?_bare, without_bare]
    cases l.object? slot <;> rfl

theorem run_bare [Callable α ω ρ] (steps : List (Op σ ω)) :
    l.bare.run steps = (l.run steps).bare := by
  induction steps generalizing l with
  | nil => rfl
  | cons step steps ih =>
    rw [run, run, List.foldl_cons, List.foldl_cons, apply_bare]
    exact ih _

end Steps

/-! What becomes of an object. -/

theorem mem_discarded_record (l : Lending σ (Numbered α)) (r : Record) (step : Op σ ω) {n : Nat}
    (h : n ∈ (l.record r step).discarded) : n ∈ r.discarded ∨
      ∃ x p, l.returning step = some (x, p) ∧ x.number = n ∧ ¬p.idle.length < p.maxIdle := by
  have htaking : (l.taking r step).discarded = r.discarded := by cases step <;> rfl
  rw [record] at h
  cases hback : l.returning step with
  | none =>
    rw [hback] at h
    exact .inl (htaking ▸ h)
  | some back =>
    rw [hback] at h
    simp only [Record.gave, htaking] at h
    split at h
    · exact .inl h
    · next hfull =>
      rcases List.mem_cons.mp h with rfl | h
      · exact .inr ⟨_, _, rfl, rfl, hfull⟩
      · exact .inl h

theorem built_acquire [Reusable α] (l : Lending σ α) (slot : σ) :
    (l.acquire slot).pool.built = l.pool.acquire.2.built := by
  rw [acquire]
  cases l.object? slot with
  | none => rfl
  | some x => exact l.pool.acquire.2.built_release x

theorem built_le_apply [Reusable α] [Callable α ω ρ] (l : Lending σ α) (step : Op σ ω) :
    l.pool.built ≤ (l.apply step).2.pool.built := by
  cases step with
  | acquire slot =>
    show _ ≤ (l.acquire slot).pool.built
    rw [built_acquire]
    exact l.pool.built_le_acquire
  | release slot =>
    show _ ≤ (l.release slot).pool.built
    rw [release]
    cases l.object? slot with
    | none => exact Nat.le_refl _
    | some x => exact Nat.le_of_eq (l.pool.built_release x).symm
  | look => exact Nat.le_refl _
  | use slot call =>
    rw [apply]
    cases l.object? slot <;> exact Nat.le_refl _

namespace Accounted
variable {maxIdle : Nat} {l : Lending σ (Numbered α)} {r : Record} (h : l.Accounted maxIdle r)
include h

theorem returning_le {step : Op σ ω} {x : Numbered α} {p : Pool (Numbered α)}
    (hback : l.returning step = some (x, p)) : p.idle.length ≤ maxIdle ∧ p.maxIdle = maxIdle := by
  cases step with
  | acquire slot =>
    obtain ⟨_, -, heq⟩ := Option.map_eq_some_iff.mp hback
    cases heq
    exact ⟨h.pool.acquire.idle_le, h.pool.acquire.maxIdle_eq⟩
  | release slot =>
    obtain ⟨_, -, heq⟩ := Option.map_eq_some_iff.mp hback
    cases heq
    exact ⟨h.pool.idle_le, h.pool.maxIdle_eq⟩
  | use slot call => cases hback
  | look => cases hback

/-- Nothing that is idle or in use goes, but what comes back to a full pool. -/
theorem leaves [Reusable α] [Callable α ω ρ] {step : Op σ ω} {n : Nat}
    (hn : n ∈ l.pool.numbers ++ l.inUse)
    (hgone : n ∉ (l.apply step).2.pool.numbers ++ (l.apply step).2.inUse) :
    ∃ x p, l.returning step = some (x, p) ∧ x.number = n ∧ p.idle.length = maxIdle := by
  have hbefore := h.pool.places
  have hdisjoint := h.pool.nodup
  rw [← List.append_assoc] at hbefore hdisjoint
  have hbuilt : n < l.pool.built :=
    List.mem_range.mp (hbefore.mem_iff.mp (List.mem_append_left _ hn))
  -- What was built is still in the account, and nowhere now but among the discarded.
  have hmem := (h.apply step).pool.places.mem_iff.mpr
    (List.mem_range.mpr (Nat.lt_of_lt_of_le hbuilt (l.built_le_apply step)))
  rw [← List.append_assoc] at hmem
  have hdiscarded := (List.mem_append.mp hmem).resolve_left hgone
  obtain hold | ⟨x, p, hback, hnumber, hfull⟩ := l.mem_discarded_record r step hdiscarded
  · exact absurd rfl ((List.nodup_append.mp hdisjoint).2.2 n hn n hold)
  · obtain ⟨hle, hmax⟩ := h.returning_le hback
    rw [hmax] at hfull
    exact ⟨x, p, hback, hnumber, Nat.le_antisymm hle (Nat.not_lt.mp hfull)⟩

theorem slot_eq {s t : σ} {x y : Numbered α} (hs : l.object? s = some x) (ht : l.object? t = some y)
    (heq : x.number = y.number) : s = t := by
  have hnodup : (l.held.map fun p => p.2.number).Nodup :=
    (List.nodup_append.mp (List.nodup_append.mp h.pool.nodup).2.1).1
  exact congrArg Prod.fst (List.inj_on_of_nodup_map hnodup (l.mem_held h.slots hs)
    (l.mem_held h.slots ht) heq)

theorem number_not_mem_numbers {s : σ} {x : Numbered α} (hs : l.object? s = some x) :
    x.number ∉ l.pool.numbers :=
  h.pool.not_mem_numbers (List.mem_map_of_mem (l.mem_held h.slots hs))

variable [Reusable α] (slot : σ)

theorem lends_last (hidle : l.pool.idle ≠ []) :
    ∃ x, (l.acquire slot).object? slot = some x ∧
      r.returned.find? (· ∈ l.pool.numbers) = some x.number ∧
      (l.acquire slot).pool.built = l.pool.built := by
  obtain ⟨x, rest, hcons⟩ := List.exists_cons_of_ne_nil hidle
  have hacquire : l.pool.acquire = (x, { l.pool with idle := rest }) := by
    rw [Pool.acquire, hcons]
  refine ⟨x, ?_, h.pool.find?_returned hcons, ?_⟩
  · rw [object?_acquire, if_pos rfl, hacquire]
  · rw [built_acquire, hacquire]

theorem builds (hidle : l.pool.idle = []) :
    ∃ x, (l.acquire slot).object? slot = some x ∧ x.number = l.pool.built ∧
      (l.acquire slot).pool.built = l.pool.built + 1 := by
  have hacquire : l.pool.acquire =
      (l.pool.make l.pool.built, { l.pool with built := l.pool.built + 1 }) := by
    simp only [Pool.acquire, hidle]
  refine ⟨l.pool.make l.pool.built, ?_, h.pool.number_make _, ?_⟩
  · rw [object?_acquire, if_pos rfl, hacquire]
  · rw [built_acquire, hacquire]

end Accounted

/-! From an empty pool. -/

variable [Reusable α] [Callable α ω ρ] (make : Nat → α) (maxIdle : Nat) (steps : List (Op σ ω))

/-- What an empty pool comes to, with its objects numbered. -/
def stocked : Lending σ (Numbered α) :=
  (ofPool (.withMaxIdle (fun n => ⟨n, make n⟩) maxIdle)).run steps

/-- The record of the steps that an empty pool went through. -/
def history : Record :=
  (ofPool (.withMaxIdle (fun n => Numbered.mk n (make n)) maxIdle)).recordRun .blank steps

theorem accounted_stocked :
    (stocked make maxIdle steps).Accounted maxIdle (history make maxIdle steps) := by
  refine Accounted.run ⟨?_, Pool.Accounted.start make maxIdle⟩ steps
  exact List.nodup_nil

/-- The books of a pool and its users: what was built, where it is, what is lent next and what is
dropped. -/
structure Balanced (maxIdle : Nat) (l : Lending σ (Numbered α)) (r : Record) : Prop where
  idle_le : l.pool.idle.length ≤ maxIdle
  built_eq : l.pool.built = l.pool.idle.length + l.held.length + r.discarded.length
  /-- Each object that was built is idle, in use or discarded, and only one of these. -/
  places : (l.pool.numbers ++ (l.inUse ++ r.discarded)).Perm (List.range l.pool.built)
  slots : l.slots.Nodup
  one_slot : ∀ s t x y, l.object? s = some x → l.object? t = some y → x.number = y.number → s = t
  not_idle : ∀ s x, l.object? s = some x → x.number ∉ l.pool.numbers
  lends_last : ∀ slot, l.pool.idle ≠ [] → ∃ x, (l.acquire slot).object? slot = some x ∧
    r.returned.find? (· ∈ l.pool.numbers) = some x.number ∧
    (l.acquire slot).pool.built = l.pool.built
  builds : ∀ slot, l.pool.idle = [] → ∃ x, (l.acquire slot).object? slot = some x ∧
    x.number = l.pool.built ∧ (l.acquire slot).pool.built = l.pool.built + 1
  leaves : ∀ (step : Op σ ω) (n : Nat), n ∈ l.pool.numbers ++ l.inUse →
    n ∉ (l.apply step).2.pool.numbers ++ (l.apply step).2.inUse →
    ∃ x p, l.returning step = some (x, p) ∧ x.number = n ∧ p.idle.length = maxIdle
  held_le_peak : l.held.length ≤ r.peak
  built_eq_peak : r.peak ≤ maxIdle → l.pool.built = r.peak

theorem Accounted.balanced {maxIdle : Nat} {l : Lending σ (Numbered α)} {r : Record}
    (h : l.Accounted maxIdle r) : l.Balanced maxIdle r where
  idle_le := h.pool.idle_le
  built_eq := by rw [h.pool.built_eq, length_inUse]
  places := h.pool.places
  slots := h.slots
  one_slot _ _ _ _ hs ht := h.slot_eq hs ht
  not_idle _ _ := h.number_not_mem_numbers
  lends_last := h.lends_last
  builds := h.builds
  leaves _ _ := h.leaves
  held_le_peak := by rw [← length_inUse]; exact h.pool.out_le
  built_eq_peak hpeak := (h.pool.thrifty hpeak).2

/-- **A pool's objects are accounted for**, whatever pool, whichever slots and after any steps from
an empty one. The books are kept on numbered objects, and without the numbers these are the
objects of the pool itself. -/
theorem accounted_for :
    (stocked make maxIdle steps).bare = (ofPool (.withMaxIdle make maxIdle)).run steps ∧
      (stocked make maxIdle steps).Balanced maxIdle (history make maxIdle steps) := by
  refine ⟨?_, (accounted_stocked make maxIdle steps).balanced⟩
  rw [stocked, ← run_bare]
  rfl

end Lending
end Passage
