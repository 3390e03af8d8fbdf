import Mathlib.Data.List.Induction
import Mathlib.Data.String.Basic
import Passage.Config

/- Tables of named values: what stands in them, and in which order.

   A table that is put together by `insert` has its names in strictly growing order
   (`sorted_ofList`). What stands under a name is the last value that was put under it
   (`mem_ofList`). -/
namespace Passage.NameTable

variable {α : Type} {name n : String} {value v : α} {table : List (String × α)}

def Sorted (table : List (String × α)) : Prop := table.Pairwise fun a b => a.1 < b.1

/-- Where a value is put, everything under other names stays. -/
theorem mem_insert (h : Sorted table) :
    (n, v) ∈ insert name value table ↔ (n = name ∧ v = value) ∨ (n ≠ name ∧ (n, v) ∈ table) := by
  induction table with
  | nil => simp [insert]
  | cons entry rest ih =>
    obtain ⟨n', v'⟩ := entry
    obtain ⟨hhead, hrest⟩ := List.pairwise_cons.mp h
    rw [insert]
    split
    · next hlt =>
      have hother : (n, v) ∈ (n', v') :: rest → n ≠ name := by
        intro hmem
        rcases List.mem_cons.mp hmem with heq | hmem
        · cases heq
          exact ne_of_gt hlt
        · exact ne_of_gt (hlt.trans (hhead _ hmem))
      rw [List.mem_cons, Prod.mk.injEq, and_iff_right_of_imp hother]
    · split
      · next heq =>
        subst heq
        have hother : (n, v) ∈ rest → n ≠ name := fun hmem => ne_of_gt (hhead _ hmem)
        have hgone : ¬(n ≠ name ∧ n = name ∧ v = v') := fun hold => hold.1 hold.2.1
        rw [List.mem_cons, List.mem_cons, Prod.mk.injEq, Prod.mk.injEq, and_or_left,
          and_iff_right_of_imp hother, or_iff_right hgone]
      · next hne =>
        have hother : n = n' ∧ v = v' → n ≠ name := fun hhere => hhere.1 ▸ Ne.symm hne
        rw [List.mem_cons, ih hrest, List.mem_cons, Prod.mk.injEq, and_or_left,
          and_iff_right_of_imp hother, or_left_comm]

theorem sorted_insert (h : Sorted table) : Sorted (insert name value table) := by
  induction table with
  | nil => exact List.pairwise_singleton ..
  | cons entry rest ih =>
    obtain ⟨n', v'⟩ := entry
    obtain ⟨hhead, hrest⟩ := List.pairwise_cons.mp h
    rw [insert]
    split
    · next hlt =>
      refine List.pairwise_cons.mpr ⟨fun p hp => ?_, h⟩
      rcases List.mem_cons.mp hp with rfl | hp
      · exact hlt
      · exact hlt.trans (hhead p hp)
    · next hge =>
      split
      · next heq =>
        subst heq
        exact List.pairwise_cons.mpr ⟨hhead, hrest⟩
      · next hne =>
        refine List.pairwise_cons.mpr ⟨fun p hp => ?_, ih hrest⟩
        rcases (mem_insert hrest).mp hp with ⟨hname, -⟩ | ⟨-, hp⟩
        · exact hname ▸ lt_of_le_of_ne (not_lt.mp hge) (Ne.symm hne)
        · exact hhead p hp

/-! Whole lists. -/

@[simp] theorem ofList_concat (entries : List (String × α)) (entry : String × α) :
    ofList (entries ++ [entry]) = insert entry.1 entry.2 (ofList entries) := by
  rw [ofList, List.foldl_append]
  rfl

theorem sorted_ofList (entries : List (String × α)) : Sorted (ofList entries) := by
  induction entries using List.reverseRecOn with
  | nil => exact List.Pairwise.nil
  | append_singleton entries entry ih =>
    rw [ofList_concat]
    exact sorted_insert ih

/-- Of the values under one name the last one stands in the table. -/
theorem mem_ofList (entries : List (String × α)) :
    (n, v) ∈ ofList entries ↔ entries.reverse.find? (·.1 = n) = some (n, v) := by
  -- From the end, as the table takes the entries up: each replaces what its name had.
  induction entries using List.reverseRecOn with
  | nil => simp [ofList]
  | append_singleton entries entry ih =>
    obtain ⟨name, value⟩ := entry
    rw [ofList_concat, mem_insert (sorted_ofList entries), ih, List.reverse_append,
      List.reverse_singleton, List.singleton_append, List.find?_cons]
    by_cases hname : name = n
    · subst hname
      simp [eq_comm]
    · simp [hname, Ne.symm hname]

theorem mem_names_ofList (entries : List (String × α)) :
    n ∈ (ofList entries).map Prod.fst ↔ n ∈ entries.map Prod.fst := by
  induction entries using List.reverseRecOn with
  | nil => simp [ofList]
  | append_singleton entries entry ih =>
    obtain ⟨name, value⟩ := entry
    simp only [List.mem_map, Prod.exists, exists_and_right, exists_eq_right] at ih ⊢
    simp only [ofList_concat, mem_insert (sorted_ofList entries), exists_or, exists_and_left, ih,
      exists_eq, and_true, List.mem_append, List.mem_singleton, Prod.mk.injEq]
    by_cases hname : n = name <;> simp [hname]

end Passage.NameTable
