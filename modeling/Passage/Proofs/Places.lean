import Passage.Cursor

/- What a cursor reads, by the places of the bytes in the data. -/
namespace Passage

theorem Bytes.length_extract {bs : Bytes} {i j : Nat} (h : j ≤ bs.length) :
    (bs.extract i j).length = j - i := by
  show ((bs.drop i).take (j - i)).length = j - i
  rw [List.length_take, List.length_drop]
  omega

/-- A part of a text stands where what comes before it ends. -/
theorem Bytes.extract_of_eq {bs a b c : Bytes} {i j : Nat} (h : bs = a ++ (b ++ c))
    (hi : a.length = i) (hj : i + b.length = j) : bs.extract i j = b := by
  subst h hi hj
  show ((a ++ (b ++ c)).drop a.length).take (a.length + b.length - a.length) = b
  rw [List.drop_left, Nat.add_sub_cancel_left, List.take_left]

theorem Bytes.getElem?_of_eq {bs a c : Bytes} {m : UInt8} {i : Nat} (h : bs = a ++ m :: c)
    (hi : a.length = i) : bs[i]? = some m := by
  subst h hi
  rw [List.getElem?_append_right (Nat.le_refl _), Nat.sub_self, List.getElem?_cons_zero]

theorem Bytes.drop_eq_extract {bs : Bytes} {i j : Nat} (h : i ≤ j) :
    bs.drop i = bs.extract i j ++ bs.drop j := by
  have hdrop : bs.drop j = (bs.drop i).drop (j - i) := by
    rw [List.drop_drop, Nat.add_sub_cancel' h]
  rw [hdrop]
  exact (List.take_append_drop (j - i) (bs.drop i)).symm

theorem Bytes.drop_eq_cons {bs : Bytes} {m : UInt8} {i : Nat} (h : bs[i]? = some m) :
    bs.drop i = m :: bs.drop (i + 1) := by
  obtain ⟨hlt, hget⟩ := List.getElem?_eq_some_iff.mp h
  rw [List.drop_eq_getElem_cons hlt, hget]

/-- A part depends on the bytes at its places alone. -/
theorem Bytes.extract_congr {bs cs : Bytes} {i j : Nat}
    (h : ∀ k, i ≤ k → k < j → bs[k]? = cs[k]?) : bs.extract i j = cs.extract i j := by
  show (bs.drop i).take (j - i) = (cs.drop i).take (j - i)
  apply List.ext_getElem?
  intro k
  rw [List.getElem?_take, List.getElem?_take]
  split
  · next hk => rw [List.getElem?_drop, List.getElem?_drop, h (i + k) (by omega) (by omega)]
  · rfl

namespace Cursor
variable {data : Bytes} {p k : Nat}

theorem take_of_le (h : p + k ≤ data.length) :
    (⟨data, p⟩ : Cursor).take k = .ok (data.extract p (p + k), ⟨data, p + k⟩) := by
  rw [take, if_neg (by show ¬k > data.length - p; omega)]
  show Except.ok ((data.drop p).take k, _) = Except.ok ((data.drop p).take (p + k - p), _)
  rw [Nat.add_sub_cancel_left]

/-- A separator is read where a byte is left, right or wrong. -/
theorem separator_of_lt (mark : UInt8) (h : p < data.length) :
    (⟨data, p⟩ : Cursor).separator mark =
      (if data[p]? = some mark then .ok () else .error .malformed, ⟨data, p + 1⟩) := by
  have hd : (data.drop p).take 1 = [data[p]] := by
    rw [List.drop_eq_getElem_cons h, List.take_succ_cons, List.take_zero]
  rw [separator, take, if_neg (by show ¬1 > data.length - p; omega)]
  simp only [hd, List.getElem?_eq_getElem h, List.cons.injEq, and_true, Option.some.injEq]

end Cursor
end Passage
