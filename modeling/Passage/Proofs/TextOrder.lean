import Mathlib.Data.String.Basic
import Passage.Bytes

/- Texts are ordered as their bytes.

   The first byte of a character tells how many follow, and more follow a greater
   character; among characters of one size the bytes are the digits of its number, the
   high ones first. So the UTF-8 forms of two characters differ first at a byte that
   is less for the lesser one (`utf8EncodeChar_lt`), whatever follows. Texts are compared
   at their first different character, so they are in the order of their UTF-8 forms
   (`ofText_lt_iff`). -/
namespace Passage.Bytes

theorem cons_lt_cons {m n : Nat} {r s : Bytes} (hn : n < 256) (h : m < n) :
    UInt8.ofNat m :: r < UInt8.ofNat n :: s := by
  have hbyte : UInt8.ofNat m < UInt8.ofNat n := by
    rw [UInt8.lt_iff_toNat_lt, UInt8.toNat_ofNat_of_lt' (h.trans hn), UInt8.toNat_ofNat_of_lt' hn]
    exact h
  exact List.cons_lt_cons_iff.mpr (.inl hbyte)

/-- Where the first bytes may be the same, the others decide. -/
theorem cons_lt_cons_of_le {m n : Nat} {r s : Bytes} (hn : n < 256) (hle : m ≤ n)
    (hrest : m = n → r < s) : UInt8.ofNat m :: r < UInt8.ofNat n :: s := by
  rcases Nat.lt_or_eq_of_le hle with hlt | heq
  · exact cons_lt_cons hn hlt
  · subst heq
    exact List.cons_lt_cons_iff.mpr (.inr ⟨rfl, hrest rfl⟩)

/-- The lesser character has the lesser form, whatever follows. -/
theorem utf8EncodeChar_lt {c d : Char} (h : c < d) (r s : Bytes) :
    String.utf8EncodeChar c ++ r < String.utf8EncodeChar d ++ s := by
  have hlt : c.val.toNat < d.val.toNat := h
  have hmax : d.val.toNat < 1114112 := by
    rcases d.valid with hlow | hhigh
    · omega
    · exact hhigh.2
  rw [String.utf8EncodeChar, String.utf8EncodeChar]
  generalize c.val.toNat = m at hlt
  generalize d.val.toNat = n at hlt hmax
  -- By the size of the lesser one, then of the greater one.
  split
  case isTrue hm =>
    split
    · exact cons_lt_cons (by omega) (by omega)
    · split
      · exact cons_lt_cons (by omega) (by omega)
      · split
        · exact cons_lt_cons (by omega) (by omega)
        · exact cons_lt_cons (by omega) (by omega)
  case isFalse hm =>
    rw [if_neg (show ¬n ≤ 127 by omega)]
    split
    case isTrue hm2 =>
      split
      · exact cons_lt_cons_of_le (by omega) (by omega) fun _ => cons_lt_cons (by omega) (by omega)
      · split
        · exact cons_lt_cons (by omega) (by omega)
        · exact cons_lt_cons (by omega) (by omega)
    case isFalse hm2 =>
      rw [if_neg (show ¬n ≤ 2047 by omega)]
      split
      case isTrue hm3 =>
        split
        · exact cons_lt_cons_of_le (by omega) (by omega) fun _ =>
            cons_lt_cons_of_le (by omega) (by omega) fun _ => cons_lt_cons (by omega) (by omega)
        · exact cons_lt_cons (by omega) (by omega)
      case isFalse hm3 =>
        rw [if_neg (show ¬n ≤ 65535 by omega)]
        exact cons_lt_cons_of_le (by omega) (by omega) fun _ =>
          cons_lt_cons_of_le (by omega) (by omega) fun _ =>
            cons_lt_cons_of_le (by omega) (by omega) fun _ => cons_lt_cons (by omega) (by omega)

theorem ofText_eq_flatMap (s : String) : ofText s = s.toList.flatMap String.utf8EncodeChar := by
  rw [ofText, ← String.utf8Encode_toList, List.utf8Encode]
  exact List.toList_data_toByteArray

theorem flatMap_utf8EncodeChar_lt {cs ds : List Char} (h : cs < ds) :
    cs.flatMap String.utf8EncodeChar < ds.flatMap String.utf8EncodeChar := by
  -- Texts are compared up to their first difference.
  induction h with
  | nil =>
    rename_i d ds
    obtain ⟨x, r, hform⟩ := List.exists_cons_of_ne_nil (String.utf8EncodeChar_ne_nil (c := d))
    rw [List.flatMap_cons, hform]
    exact List.nil_lt_cons ..
  | cons _ ih =>
    rw [List.flatMap_cons, List.flatMap_cons]
    exact List.Lex.append_left _ ih _
  | rel h =>
    rw [List.flatMap_cons, List.flatMap_cons]
    exact utf8EncodeChar_lt h _ _

/-- Texts are in the order of their UTF-8 forms. -/
theorem ofText_lt_iff {s t : String} : ofText s < ofText t ↔ s < t := by
  have hlt : ∀ {s t : String}, s < t → ofText s < ofText t := by
    intro s t h
    rw [ofText_eq_flatMap, ofText_eq_flatMap]
    exact flatMap_utf8EncodeChar_lt (String.lt_iff_toList_lt.mp h)
  refine ⟨fun h => ?_, hlt⟩
  rcases lt_trichotomy s t with hst | rfl | hts
  · exact hst
  · exact absurd h (List.lt_irrefl _)
  · exact absurd h (List.lt_asymm (hlt hts))

end Passage.Bytes
