import Mathlib.Data.List.Nodup
import Passage.Pool.Lending

/- Where the objects of a pool are.

   Objects have no names, so they are numbered as they are built (`Numbered`). A number is
   carried along and never looked at: without the numbers a pool lends and takes back what
   it lends and takes back anyhow (`Pool.acquire_bare`, `Pool.release_bare`). Beside the
   pool a `Record` is kept of what it forgets: which objects have come back, which of them
   met a pool that was full, and how many were out at once.

   1. A pool is `Accounted` for if each number so far is in one place: idle, out or
      discarded; if the idle ones lie in the order in which they came back; and if, as long
      as no more were out than the pool keeps, as many were built as were ever out.
   2. Lending an object and taking one back each keep the account
      (`Pool.Accounted.acquire`, `Pool.Accounted.release`). -/
namespace Passage

variable {α ω ρ : Type}

/-- An object with the number of those that were built before it. -/
structure Numbered (α : Type) where
  number : Nat
  object : α

instance [Reusable α] : Reusable (Numbered α) :=
  ⟨fun x => { x with object := Reusable.reset x.object }⟩

instance [Callable α ω ρ] : Callable (Numbered α) ω ρ :=
  ⟨fun x call => ((Callable.apply x.object call).1,
    { x with object := (Callable.apply x.object call).2 })⟩

/-- What has become of the objects of a pool, by their numbers. -/
structure Record where
  /-- Those that came back, the last one in front. -/
  returned : List Nat
  /-- Those that came back to a full pool. -/
  discarded : List Nat
  /-- The most that were out at once. -/
  peak : Nat

namespace Record

def blank : Record := ⟨[], [], 0⟩

/-- One more object is out beside `out` others. -/
def took (r : Record) (out : Nat) : Record := { r with peak := max r.peak (out + 1) }

/-- An object comes back to a pool. -/
def gave (r : Record) (p : Pool (Numbered α)) (x : Numbered α) : Record :=
  { r with
    returned := x.number :: r.returned
    discarded := if p.idle.length < p.maxIdle then r.discarded else x.number :: r.discarded }

end Record

namespace Pool

def numbers (p : Pool (Numbered α)) : List Nat := p.idle.map Numbered.number

theorem numbers_of_idle {p : Pool (Numbered α)} {x : Numbered α} {rest : List (Numbered α)}
    (h : p.idle = x :: rest) : p.numbers = x.number :: rest.map Numbered.number := by
  rw [numbers, h, List.map_cons]

def bare (p : Pool (Numbered α)) : Pool α :=
  ⟨fun n => (p.make n).object, p.maxIdle, p.idle.map Numbered.object, p.built⟩

/-- The first entry that stands in `s` is the one before which no other of `s` stands. -/
theorem find?_of_idxOf_le {l s : List Nat} {n : Nat} (hl : n ∈ l) (hs : n ∈ s)
    (hfirst : ∀ k ∈ s, l.idxOf n ≤ l.idxOf k) : l.find? (· ∈ s) = some n := by
  induction l with
  | nil => cases hl
  | cons a l ih =>
    by_cases ha : a ∈ s
    · have hzero := hfirst a ha
      rw [List.idxOf_cons_self] at hzero
      have hn : a = n := by
        by_contra hne
        rw [List.idxOf_cons_ne _ hne] at hzero
        exact absurd hzero (Nat.not_succ_le_zero _)
      rw [List.find?_cons_of_pos (by simpa using ha), hn]
    · have hne : ∀ k ∈ s, a ≠ k := by rintro k hk rfl; exact ha hk
      rw [List.find?_cons_of_neg (by simpa using ha)]
      refine ih ((List.mem_cons.mp hl).resolve_left (hne n hs).symm) fun k hk => ?_
      have hle := hfirst k hk
      rw [List.idxOf_cons_ne _ (hne n hs), List.idxOf_cons_ne _ (hne k hk)] at hle
      exact Nat.le_of_succ_le_succ hle

/-- Every object is in one place, the idle ones in the order in which they came back, and no more
were built than had to be. -/
structure Accounted (maxIdle : Nat) (p : Pool (Numbered α)) (out : List Nat) (r : Record) :
    Prop where
  maxIdle_eq : p.maxIdle = maxIdle
  number_make : ∀ n, (p.make n).number = n
  idle_le : p.idle.length ≤ maxIdle
  places : (p.numbers ++ (out ++ r.discarded)).Perm (List.range p.built)
  returned : ∀ n ∈ p.numbers, n ∈ r.returned
  inOrder : p.numbers.Pairwise fun a b => r.returned.idxOf a < r.returned.idxOf b
  out_le : out.length ≤ r.peak
  thrifty : r.peak ≤ maxIdle → r.discarded = [] ∧ p.built = r.peak

namespace Accounted
variable {maxIdle : Nat} {p : Pool (Numbered α)} {out : List Nat} {r : Record}

theorem start (make : Nat → α) (maxIdle : Nat) :
    (withMaxIdle (fun n => Numbered.mk n (make n)) maxIdle).Accounted maxIdle [] .blank where
  maxIdle_eq := rfl
  number_make _ := rfl
  idle_le := Nat.zero_le _
  places := .refl []
  returned _ h := absurd h List.not_mem_nil
  inOrder := .nil
  out_le := Nat.le_refl _
  thrifty _ := ⟨rfl, rfl⟩

theorem built_eq (h : p.Accounted maxIdle out r) :
    p.built = p.idle.length + out.length + r.discarded.length := by
  have hlength := h.places.length_eq
  rw [List.length_append, List.length_append, List.length_range, numbers, List.length_map]
    at hlength
  omega

theorem nodup (h : p.Accounted maxIdle out r) : (p.numbers ++ (out ++ r.discarded)).Nodup :=
  h.places.nodup_iff.mpr List.nodup_range

/-- The order in which those that are out are listed does not matter. -/
theorem perm (h : p.Accounted maxIdle out r) {out' : List Nat} (hout : out'.Perm out) :
    p.Accounted maxIdle out' r :=
  { h with
    places := ((hout.append_right _).append_left _).trans h.places
    out_le := hout.length_eq ▸ h.out_le }

theorem not_mem_numbers (h : p.Accounted maxIdle out r) {n : Nat} (hn : n ∈ out) :
    n ∉ p.numbers := fun hidle =>
  (List.nodup_append.mp h.nodup).2.2 n hidle n (List.mem_append_left _ hn) rfl

/-- An idle object is lent: the one that came back last. -/
theorem acquire_idle (h : p.Accounted maxIdle out r) {x : Numbered α} {rest : List (Numbered α)}
    (hidle : p.idle = x :: rest) :
    Accounted maxIdle { p with idle := rest } (x.number :: out) (r.took out.length) := by
  have hnumbers := numbers_of_idle hidle
  have hbuilt := h.built_eq
  have hle := h.idle_le
  rw [hidle, List.length_cons] at hbuilt hle
  have hplaces := h.places
  have hreturned := h.returned
  have hordered := h.inOrder
  rw [hnumbers] at hplaces hreturned hordered
  refine ⟨h.maxIdle_eq, h.number_make, Nat.le_of_succ_le hle, List.perm_middle.trans hplaces,
    fun n hn => hreturned n (List.mem_cons_of_mem _ hn), (List.pairwise_cons.mp hordered).2,
    Nat.le_max_right .., fun hpeak => ?_⟩
  -- An object lay idle, so no more are out now than were at some time before.
  obtain ⟨hnone, hmost⟩ := h.thrifty (Nat.le_trans (Nat.le_max_left ..) hpeak)
  refine ⟨hnone, hmost.trans (Nat.max_eq_left ?_).symm⟩
  omega

theorem acquire_new (h : p.Accounted maxIdle out r) (hidle : p.idle = []) :
    Accounted maxIdle { p with built := p.built + 1 } ((p.make p.built).number :: out)
      (r.took out.length) := by
  have hnumbers : p.numbers = [] := by rw [numbers, hidle, List.map_nil]
  have hbuilt := h.built_eq
  rw [hidle, List.length_nil] at hbuilt
  have hplaces := h.places
  rw [hnumbers, List.nil_append] at hplaces
  refine ⟨h.maxIdle_eq, h.number_make, h.idle_le, ?_, h.returned, h.inOrder, Nat.le_max_right ..,
    fun hpeak => ?_⟩
  · show (p.numbers ++ _).Perm (List.range (p.built + 1))
    rw [hnumbers, List.nil_append, h.number_make, List.range_succ]
    exact (hplaces.cons p.built).trans (List.perm_append_singleton ..).symm
  · -- All that were built are out, so that there were never as many out as now.
    obtain ⟨hnone, hmost⟩ := h.thrifty (Nat.le_trans (Nat.le_max_left ..) hpeak)
    rw [hnone, List.length_nil] at hbuilt
    refine ⟨hnone, ?_⟩
    show p.built + 1 = max r.peak (out.length + 1)
    omega

theorem acquire (h : p.Accounted maxIdle out r) :
    p.acquire.2.Accounted maxIdle (p.acquire.1.number :: out) (r.took out.length) := by
  rw [Pool.acquire]
  cases hidle : p.idle with
  | nil =>
    have hnew := h.acquire_new hidle
    rwa [hidle] at hnew
  | cons x rest => exact h.acquire_idle hidle

theorem find?_returned (h : p.Accounted maxIdle out r) {x : Numbered α} {rest : List (Numbered α)}
    (hidle : p.idle = x :: rest) : r.returned.find? (· ∈ p.numbers) = some x.number := by
  have hnumbers := numbers_of_idle hidle
  have hordered := h.inOrder
  rw [hnumbers] at hordered
  have hx : x.number ∈ p.numbers := hnumbers ▸ List.mem_cons_self
  refine find?_of_idxOf_le (h.returned _ hx) hx fun n hn => ?_
  rw [hnumbers] at hn
  rcases List.mem_cons.mp hn with rfl | hn
  · exact Nat.le_refl _
  · exact Nat.le_of_lt ((List.pairwise_cons.mp hordered).1 n hn)

/-- What comes back comes back after all that lies idle. -/
theorem inOrder_cons (h : p.Accounted maxIdle out r) {n : Nat} (hn : n ∉ p.numbers) :
    p.numbers.Pairwise fun a b => (n :: r.returned).idxOf a < (n :: r.returned).idxOf b := by
  refine h.inOrder.imp_of_mem fun {a b} ha hb hab => ?_
  have hna : n ≠ a := by rintro rfl; exact hn ha
  have hnb : n ≠ b := by rintro rfl; exact hn hb
  rw [List.idxOf_cons_ne _ hna, List.idxOf_cons_ne _ hnb]
  exact Nat.succ_lt_succ hab

section Release
variable {x : Numbered α} {rest : List Nat}

/-- An object that was out comes back to a full pool and is dropped. -/
theorem release_full (h : p.Accounted maxIdle out r) (hout : (x.number :: rest).Perm out)
    (hfull : ¬p.idle.length < maxIdle) :
    p.Accounted maxIdle rest
      { r with returned := x.number :: r.returned, discarded := x.number :: r.discarded } := by
  have hx : x.number ∉ p.numbers := h.not_mem_numbers (hout.mem_iff.mp List.mem_cons_self)
  refine ⟨h.maxIdle_eq, h.number_make, h.idle_le, ?_, ?_, h.inOrder_cons hx,
    Nat.le_of_succ_le (h.perm hout).out_le, fun hpeak : r.peak ≤ maxIdle => ?_⟩
  · exact (List.perm_middle.append_left _).trans (h.perm hout).places
  · exact fun n hn => List.mem_cons_of_mem _ (h.returned n hn)
  · -- A full pool and one that was out are more than were ever out.
    have hbuilt := (h.perm hout).built_eq
    obtain ⟨-, hmost⟩ := h.thrifty hpeak
    rw [List.length_cons] at hbuilt
    exact absurd hpeak (by omega)

variable [Reusable α]

/-- An object that was out lies idle again, in front of the others. -/
theorem release_kept (h : p.Accounted maxIdle out r) (hout : (x.number :: rest).Perm out)
    (hroom : p.idle.length < maxIdle) :
    Accounted maxIdle { p with idle := Reusable.reset x :: p.idle } rest
      { r with returned := x.number :: r.returned } := by
  have hx : x.number ∉ p.numbers := h.not_mem_numbers (hout.mem_iff.mp List.mem_cons_self)
  refine ⟨h.maxIdle_eq, h.number_make, hroom, ?_, ?_, ?_,
    Nat.le_of_succ_le (h.perm hout).out_le, h.thrifty⟩
  · exact List.perm_middle.symm.trans (h.perm hout).places
  · intro n hn
    rcases List.mem_cons.mp hn with rfl | hn
    · exact List.mem_cons_self
    · exact List.mem_cons_of_mem _ (h.returned n hn)
  · refine List.pairwise_cons.mpr ⟨fun n hn => ?_, h.inOrder_cons hx⟩
    have hne : x.number ≠ n := by rintro rfl; exact hx hn
    show (x.number :: r.returned).idxOf x.number < _
    rw [List.idxOf_cons_self, List.idxOf_cons_ne _ hne]
    exact Nat.succ_pos _

theorem release (h : p.Accounted maxIdle out r) (hout : (x.number :: rest).Perm out) :
    (p.release x).Accounted maxIdle rest (r.gave p x) := by
  rw [Pool.release, Record.gave]
  by_cases hroom : p.idle.length < p.maxIdle
  · rw [if_pos hroom, if_pos hroom]
    exact h.release_kept hout (h.maxIdle_eq ▸ hroom)
  · rw [if_neg hroom, if_neg hroom]
    exact h.release_full hout (h.maxIdle_eq ▸ hroom)

end Release
end Accounted

/-! How many were built. -/

theorem built_le_acquire (p : Pool α) : p.built ≤ p.acquire.2.built := by
  rw [acquire]
  cases p.idle with
  | nil => exact Nat.le_succ _
  | cons x rest => exact Nat.le_refl _

theorem built_release [Reusable α] (p : Pool α) (x : α) : (p.release x).built = p.built := by
  rw [release]
  split <;> rfl

/-! Without numbers. -/

theorem acquire_bare (p : Pool (Numbered α)) :
    p.bare.acquire = (p.acquire.1.object, p.acquire.2.bare) := by
  rw [acquire, acquire, bare]
  cases hidle : p.idle with
  | nil => simp only [bare, List.map_nil]
  | cons x rest => simp only [bare, List.map_cons]

theorem release_bare [Reusable α] (p : Pool (Numbered α)) (x : Numbered α) :
    p.bare.release x.object = (p.release x).bare := by
  rw [release, release, bare, List.length_map]
  split <;> rfl

end Pool

end Passage
