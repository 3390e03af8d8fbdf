import Mathlib.Data.List.Dedup
import Mathlib.Data.List.Induction
import Passage.Proofs.Instances
import Passage.Proofs.Sessions

/- Which frontend answers for a name, once some were added.

   1. A byte string is the name of a frontend exactly if it is the UTF-8 form of its name
      (`Bytes.text?_eq_some_iff`), so names that are no UTF-8 are nobody's.
   2. Adding a frontend leads its own name to it, in place of whoever had the name, and
      leaves all other names (`Instance.named?_withFrontend`). So after some were added a
      name leads to the last of them that has it (`Instance.route_withFrontends`).
   3. No two of the named frontends have one name, so there are as many of them as names
      (`Instance.size_withFrontends`).
   4. Neither depends on the order in which frontends of different names are added
      (`Instance.latest_answers`). -/
namespace Passage

namespace Bytes

theorem text?_eq_some_iff {b : Bytes} {s : String} : text? b = some s ↔ ofText s = b := by
  rw [text?, String.fromUTF8?, ofText]
  constructor
  · intro h
    split at h
    · cases h
      rfl
    · cases h
  · rintro rfl
    exact dif_pos s.isValidUTF8

theorem text?_ofText (s : String) : text? (ofText s) = some s := text?_eq_some_iff.mpr rfl

theorem ofText_ne_of_text? {b : Bytes} (h : text? b = none) (s : String) : ofText s ≠ b := by
  rintro rfl
  rw [text?_ofText] at h
  cases h

theorem ofText_inj {s t : String} : ofText s = ofText t ↔ s = t := by
  rw [← text?_eq_some_iff, text?_ofText, Option.some.injEq, eq_comm]

end Bytes

theorem length_dedup_congr {α : Type} [DecidableEq α] {xs ys : List α} (h : ∀ a, a ∈ xs ↔ a ∈ ys) :
    xs.dedup.length = ys.dedup.length := by
  have hperm : xs.dedup.Perm ys.dedup :=
    (List.perm_ext_iff_of_nodup (List.nodup_dedup xs) (List.nodup_dedup ys)).mpr
      (by simpa only [List.mem_dedup] using h)
  exact hperm.length_eq

namespace Instance

/-- The instance with some more frontends, added one after the other. -/
def withFrontends (i : Instance) (fs : List Frontend) : Instance := fs.foldl withFrontend i

/-- The names that lead to a frontend of their own. -/
def names (i : Instance) : List String := i.named.map Frontend.name

theorem named?_withFrontend (i : Instance) (f : Frontend) (target : Bytes) :
    (i.withFrontend f).named? target =
      if Bytes.ofText f.name = target then some f else i.named? target := by
  rw [named?, named?]
  cases htext : Bytes.text? target with
  | none =>
    rw [if_neg (Bytes.ofText_ne_of_text? htext f.name)]
  | some name =>
    obtain rfl := Bytes.text?_eq_some_iff.mp htext
    simp only [withFrontend, List.find?_cons]
    by_cases hname : f.name = name
    · simp only [hname, decide_true, if_true]
    · rw [if_neg fun h => hname (Bytes.ofText_inj.mp h)]
      simp only [hname, decide_false, List.find?_filter]
      congr 1
      funext g
      -- Only frontends of another name than `name` are gone.
      by_cases hg : g.name = name
      · simp [hg, Ne.symm hname]
      · simp [hg]

theorem names_withFrontend (i : Instance) (f : Frontend) :
    (i.withFrontend f).names = f.name :: i.names.filter (· ≠ f.name) := by
  rw [names, names, withFrontend, List.map_cons, List.filter_map]
  rfl

/-! Many frontends. -/

@[simp] theorem withFrontends_concat (i : Instance) (fs : List Frontend) (f : Frontend) :
    i.withFrontends (fs ++ [f]) = (i.withFrontends fs).withFrontend f := by
  rw [withFrontends, List.foldl_append]
  rfl

/-- A name leads to the last frontend that was added under it. -/
theorem named?_withFrontends (i : Instance) (fs : List Frontend) (target : Bytes) :
    (i.withFrontends fs).named? target =
      (fs.reverse.find? (Bytes.ofText ·.name = target)).or (i.named? target) := by
  induction fs using List.reverseRecOn with
  | nil => rfl
  | append_singleton fs f ih =>
    rw [withFrontends_concat, named?_withFrontend, ih, List.reverse_append]
    simp only [List.reverse_cons, List.reverse_nil, List.nil_append, List.singleton_append,
      List.find?_cons]
    by_cases hf : Bytes.ofText f.name = target
    · simp [hf]
    · simp [hf]

theorem withFrontends_rest (i : Instance) (fs : List Frontend) :
    (i.withFrontends fs).fallback = i.fallback ∧ (i.withFrontends fs).clock = i.clock := by
  induction fs using List.reverseRecOn with
  | nil => exact ⟨rfl, rfl⟩
  | append_singleton fs f ih =>
    rw [withFrontends_concat]
    exact ih

/-- Over one that answers for all, a name leads to the last frontend that was added under it. -/
theorem route_withFrontends (fallback : Frontend) (clock : Clock) (fs : List Frontend)
    (target : Bytes) : ((ofFallback fallback clock).withFrontends fs).route target =
      (fs.reverse.find? (Bytes.ofText ·.name = target)).getD fallback := by
  have hnone : (ofFallback fallback clock).named? target = none := by
    rw [named?]
    split <;> rfl
  rw [route, named?_withFrontends, hnone, Option.or_none, (withFrontends_rest ..).1]
  rfl

theorem mem_frontends_withFrontends {i : Instance} {fs : List Frontend} {g : Frontend}
    (h : g ∈ (i.withFrontends fs).frontends) : g ∈ fs ∨ g ∈ i.frontends := by
  induction fs using List.reverseRecOn with
  | nil => exact .inr h
  | append_singleton fs f ih =>
    rw [withFrontends_concat] at h
    rcases List.mem_cons.mp h with rfl | h
    · exact (ih List.mem_cons_self).imp_left (List.mem_append_left [f])
    rcases List.mem_cons.mp h with rfl | h
    · exact .inl (by simp)
    · have hold := ih (List.mem_cons_of_mem _ (List.mem_filter.mp h).1)
      exact hold.imp_left (List.mem_append_left [f])

theorem mem_names_withFrontends (i : Instance) (fs : List Frontend) (name : String) :
    name ∈ (i.withFrontends fs).names ↔ name ∈ fs.map Frontend.name ∨ name ∈ i.names := by
  induction fs using List.reverseRecOn with
  | nil => simp [withFrontends]
  | append_singleton fs f ih =>
    rw [withFrontends_concat, names_withFrontend, List.mem_cons, List.mem_filter, ih,
      List.map_append, List.mem_append]
    by_cases hname : name = f.name <;> simp [hname]

theorem nodup_names_withFrontends {i : Instance} (h : i.names.Nodup) (fs : List Frontend) :
    (i.withFrontends fs).names.Nodup := by
  induction fs using List.reverseRecOn with
  | nil => exact h
  | append_singleton fs f ih =>
    rw [withFrontends_concat, names_withFrontend, List.nodup_cons]
    exact ⟨by simp, ih.filter _⟩

/-- There are as many frontends as names that were added, and one. -/
theorem size_withFrontends (fallback : Frontend) (clock : Clock) (fs : List Frontend) :
    ((ofFallback fallback clock).withFrontends fs).size =
      1 + (fs.map Frontend.name).dedup.length := by
  have hnone : (ofFallback fallback clock).names = [] := rfl
  have hnodup := nodup_names_withFrontends (hnone ▸ List.nodup_nil) fs
  have hsame := length_dedup_congr fun name =>
    (mem_names_withFrontends (ofFallback fallback clock) fs name).trans
      (or_iff_left (hnone ▸ List.not_mem_nil))
  rw [← hsame, hnodup.dedup, names, List.length_map, size, Nat.add_comm]

/-! The order of adding. -/

/-- The same frontends are added, and those of one name in the same order. -/
def SameOrder (fs gs : List Frontend) : Prop :=
  ∀ name, fs.filter (·.name = name) = gs.filter (·.name = name)

namespace SameOrder
variable {fs gs : List Frontend}

theorem latest (h : SameOrder fs gs) (target : Bytes) :
    fs.reverse.find? (Bytes.ofText ·.name = target) =
      gs.reverse.find? (Bytes.ofText ·.name = target) := by
  cases htext : Bytes.text? target with
  | none =>
    have hnone : ∀ fs : List Frontend, fs.find? (Bytes.ofText ·.name = target) = none := by
      intro fs
      simp [List.find?_eq_none, Bytes.ofText_ne_of_text? htext]
    rw [hnone, hnone]
  | some name =>
    obtain rfl := Bytes.text?_eq_some_iff.mp htext
    simp only [Bytes.ofText_inj]
    rw [← List.head?_filter, ← List.head?_filter, List.filter_reverse, List.filter_reverse, h name]

theorem mem_names (h : SameOrder fs gs) (name : String) :
    name ∈ fs.map Frontend.name ↔ name ∈ gs.map Frontend.name := by
  have hnames : ∀ fs : List Frontend,
      name ∈ fs.map Frontend.name ↔ fs.filter (·.name = name) ≠ [] := by
    intro fs
    simp [List.filter_eq_nil_iff]
  rw [hnames, hnames, h name]

/-- Neighbours of different names can change places. -/
theorem swap {f g : Frontend} (h : f.name ≠ g.name) (before after : List Frontend) :
    SameOrder (before ++ f :: g :: after) (before ++ g :: f :: after) := by
  intro name
  rw [List.filter_append, List.filter_append]
  congr 1
  by_cases hf : f.name = name
  · have hg : g.name ≠ name := fun hg => h (hf.trans hg.symm)
    simp [hf, hg]
  · simp [List.filter_cons, hf]

end SameOrder

/-- Who answers for which name once the frontends were added in this order, and how many there
are. -/
structure Routes (i : Instance) (fallback : Frontend) (fs : List Frontend) : Prop where
  latest : ∀ target before f after, fs = before ++ f :: after → Bytes.ofText f.name = target →
    (∀ g ∈ after, Bytes.ofText g.name ≠ target) → i.route target = f
  unknown : ∀ target, (∀ f ∈ fs, Bytes.ofText f.name ≠ target) → i.route target = fallback
  undecodable : ∀ target, Bytes.text? target = none → i.route target = fallback
  size_eq : i.size = 1 + (fs.map Frontend.name).dedup.length

theorem routes_withFrontends (fallback : Frontend) (clock : Clock) (fs : List Frontend) :
    ((ofFallback fallback clock).withFrontends fs).Routes fallback fs := by
  have hunknown : ∀ target, (∀ f ∈ fs, Bytes.ofText f.name ≠ target) →
      ((ofFallback fallback clock).withFrontends fs).route target = fallback := by
    intro target hnone
    have hfind : fs.reverse.find? (Bytes.ofText ·.name = target) = none := by
      simpa [List.find?_eq_none] using hnone
    rw [route_withFrontends, hfind]
    rfl
  refine ⟨fun target before f after hfs hname hafter => ?_, hunknown, fun target htext => ?_,
    size_withFrontends fallback clock fs⟩
  · have hlater : after.reverse.find? (Bytes.ofText ·.name = target) = none := by
      simpa [List.find?_eq_none] using hafter
    rw [route_withFrontends, hfs]
    simp [List.find?_append, hlater, hname]
  · exact hunknown target fun f _ => Bytes.ofText_ne_of_text? htext f.name

/-- **The latest of a name answers for it**, and the default for all names that nobody has. Adding
the same frontends in another order changes neither that nor their number, as long as those of one
name keep theirs. -/
theorem latest_answers (fallback : Frontend) (clock : Clock) (fs : List Frontend) :
    ((ofFallback fallback clock).withFrontends fs).Routes fallback fs ∧
      ∀ gs, SameOrder fs gs →
        (∀ target, ((ofFallback fallback clock).withFrontends gs).route target =
          ((ofFallback fallback clock).withFrontends fs).route target) ∧
        ((ofFallback fallback clock).withFrontends gs).size =
          ((ofFallback fallback clock).withFrontends fs).size := by
  refine ⟨routes_withFrontends fallback clock fs, fun gs h => ⟨fun target => ?_, ?_⟩⟩
  · rw [route_withFrontends, route_withFrontends, h.latest target]
  · rw [size_withFrontends, size_withFrontends, length_dedup_congr h.mem_names]

namespace Sample
open Engine.Session.Sample

def free (name : String) : Frontend := ⟨name, .build secret openLevels⟩

def strict (name : String) : Frontend := ⟨name, .build secret levels⟩

/-- Two shops, and between them one that has the name of the default. -/
def added : List Frontend := [free "shop", strict "default", strict "shop"]

/-- The same, the shops behind the other one. -/
def reordered : List Frontend := [strict "default", free "shop", strict "shop"]

end Sample

/-- The later shop answers for the shop, the frontend with the default's name for this name, and the
default for bytes that are no name, in both orders. -/
theorem later_shop_answers : SameOrder Sample.added Sample.reordered ∧
    ∃ i, (ofFallback (Sample.free "default") Engine.Session.Sample.clock).withFrontends
      Sample.reordered = i ∧
    i.route (Bytes.ofText "shop") = Sample.strict "shop" ∧
    i.route (Bytes.ofText "default") = Sample.strict "default" ∧
    i.route [0xff] = Sample.free "default" ∧ i.size = 3 := by
  have horder : SameOrder Sample.added Sample.reordered := SameOrder.swap (by decide) [] _
  obtain ⟨hroutes, hsame⟩ :=
    latest_answers (Sample.free "default") Engine.Session.Sample.clock Sample.added
  obtain ⟨hroute, hsize⟩ := hsame Sample.reordered horder
  refine ⟨horder, _, rfl, ?_, ?_, ?_, ?_⟩
  · rw [hroute]
    exact hroutes.latest _ [Sample.free "shop", Sample.strict "default"] _ [] rfl rfl (by simp)
  · rw [hroute]
    refine hroutes.latest _ [Sample.free "shop"] _ [Sample.strict "shop"] rfl rfl ?_
    simp only [List.forall_mem_cons]
    exact ⟨by decide, by simp⟩
  · rw [hroute]
    exact hroutes.undecodable _ (by decide)
  · rw [hsize, hroutes.size_eq]
    decide

end Instance
end Passage
