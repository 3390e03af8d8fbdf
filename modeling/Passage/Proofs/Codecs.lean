import Mathlib.Algebra.Group.Nat.Defs
import Passage.Bytes
import Passage.Bytes.Hex

/- The two codecs of signed fields.

   Lowercase hexadecimal is described by its sixteen digits in the order of their
   values. `IsLower` says which texts are made of digits and `bytes` what such a
   text stands for; neither is how the codec works. The decoder takes exactly the
   texts of digits that have the right size, for the bytes they stand for
   (`decodeExactly?_eq`), and the encoder writes the one text of every byte string
   (`bytes_encode`, `encode_bytes`).

   Little-endian numbers of a fixed width and byte strings of that width are in
   one-to-one correspondence (`decode_encode`, `encode_decode`). -/
namespace Passage

namespace Hex

/-- The digits `0` to `9` and `a` to `f`. -/
def digits : Bytes := [48, 49, 50, 51, 52, 53, 54, 55, 56, 57, 97, 98, 99, 100, 101, 102]

def IsLower (s : Bytes) : Prop := ∀ c ∈ s, c ∈ digits

instance (s : Bytes) : Decidable (IsLower s) := List.decidableBAll (· ∈ digits) s

/-- The bytes that pairs of digits stand for, high half first. -/
def bytes : Bytes → Bytes
  | high :: low :: rest => UInt8.ofNat (16 * digits.idxOf high + digits.idxOf low) :: bytes rest
  | _ => []

/-! One digit. A byte has 256 values and a half byte sixteen, so where arithmetic says nothing these
are run through. -/

theorem byte_cases {P : UInt8 → Prop} (h : ∀ n < 256, P (UInt8.ofNat n)) (c : UInt8) : P c := by
  have := h c.toNat c.toNat_lt
  rwa [UInt8.ofNat_toNat] at this

theorem value?_eq : ∀ c : UInt8,
    value? c = if c ∈ digits then some (UInt8.ofNat (digits.idxOf c)) else none :=
  byte_cases (by decide +kernel)

theorem digit_ofNat : ∀ n < 16,
    digit (UInt8.ofNat n) ∈ digits ∧ digits.idxOf (digit (UInt8.ofNat n)) = n := by
  decide +kernel

theorem digit_mem (n : UInt8) (h : n < 16) : digit n ∈ digits := by
  obtain ⟨hmem, -⟩ := digit_ofNat n.toNat (UInt8.lt_iff_toNat_lt.mp h)
  rwa [UInt8.ofNat_toNat] at hmem

theorem idxOf_digit (n : UInt8) (h : n < 16) : digits.idxOf (digit n) = n.toNat := by
  obtain ⟨-, hidx⟩ := digit_ofNat n.toNat (UInt8.lt_iff_toNat_lt.mp h)
  rwa [UInt8.ofNat_toNat] at hidx

theorem digit_idxOf : ∀ c ∈ digits, digit (UInt8.ofNat (digits.idxOf c)) = c := by
  decide +kernel

theorem idxOf_lt {c : UInt8} (h : c ∈ digits) : digits.idxOf c < 16 :=
  List.idxOf_lt_length_of_mem h

theorem high_lt (b : UInt8) : b / 16 < 16 := by
  rw [UInt8.lt_iff_toNat_lt, UInt8.toNat_div]
  exact Nat.div_lt_of_lt_mul b.toNat_lt

theorem low_lt (b : UInt8) : b % 16 < 16 := by
  rw [UInt8.lt_iff_toNat_lt, UInt8.toNat_mod]
  exact Nat.mod_lt _ (by decide)

/-! Texts. -/

theorem isLower_nil : IsLower [] := by simp [IsLower]

@[simp] theorem isLower_cons (c : UInt8) (s : Bytes) :
    IsLower (c :: s) ↔ c ∈ digits ∧ IsLower s := by
  simp [IsLower]

theorem length_bytes : ∀ s, (bytes s).length = s.length / 2
  | [] => rfl
  | [_] => by simp [bytes]
  | _ :: _ :: rest => by
    have ih := length_bytes rest
    simp only [bytes, List.length_cons, ih]
    omega

/-- The decoder takes the texts of digits of even size. -/
theorem decode?_eq : ∀ s, decode? s =
    if s.length % 2 = 0 ∧ IsLower s then some (bytes s) else none
  | [] => by simp [decode?, bytes, isLower_nil]
  | [_] => by simp [decode?]
  | high :: low :: rest => by
    have ih := decode?_eq rest
    have hl : (high :: low :: rest).length % 2 = rest.length % 2 := by
      simp only [List.length_cons]
      omega
    rw [decode?, value?_eq, value?_eq, ih, hl]
    by_cases h1 : high ∈ digits <;> by_cases h2 : low ∈ digits <;>
      by_cases h3 : rest.length % 2 = 0 ∧ IsLower rest <;> simp [h1, h2, h3, bytes]

theorem decodeExactly?_eq (n : Nat) (s : Bytes) : decodeExactly? n s =
    if s.length = 2 * n ∧ IsLower s then some (bytes s) else none := by
  rw [decodeExactly?, decode?_eq]
  have hs := length_bytes s
  by_cases h : s.length % 2 = 0 ∧ IsLower s
  · simp only [h, and_self, if_true, hs]
    by_cases hn : s.length / 2 = n
    · rw [if_pos hn, if_pos ⟨by omega, trivial⟩]
    · rw [if_neg hn, if_neg (by omega)]
  · rw [if_neg h]
    simp only
    rw [if_neg (fun hn => h ⟨by omega, hn.2⟩)]

@[simp] theorem length_encode (bs : Bytes) : (encode bs).length = 2 * bs.length := by
  induction bs with
  | nil => rfl
  | cons b bs ih =>
    simp only [encode, List.length_cons, ih]
    omega

theorem isLower_encode (bs : Bytes) : IsLower (encode bs) := by
  induction bs with
  | nil => exact isLower_nil
  | cons b bs ih =>
    rw [encode, isLower_cons, isLower_cons]
    exact ⟨digit_mem _ (high_lt b), digit_mem _ (low_lt b), ih⟩

theorem bytes_encode (bs : Bytes) : bytes (encode bs) = bs := by
  induction bs with
  | nil => rfl
  | cons b bs ih =>
    rw [encode, bytes, ih, idxOf_digit _ (high_lt b), idxOf_digit _ (low_lt b),
      UInt8.toNat_div, UInt8.toNat_mod]
    have h : 16 * (b.toNat / (16 : UInt8).toNat) + b.toNat % (16 : UInt8).toNat = b.toNat :=
      Nat.div_add_mod b.toNat 16
    rw [h, UInt8.ofNat_toNat]

/-- The two digits of a byte whose halves are `h` and `l`. -/
theorem halves {h l : Nat} (hh : h < 16) (hl : l < 16) :
    UInt8.ofNat (16 * h + l) / 16 = UInt8.ofNat h ∧ UInt8.ofNat (16 * h + l) % 16 = UInt8.ofNat l := by
  have hv : (UInt8.ofNat (16 * h + l)).toNat = 16 * h + l :=
    UInt8.toNat_ofNat_of_lt' (by show _ < 256; omega)
  constructor
  · apply UInt8.toNat_inj.mp
    rw [UInt8.toNat_div, hv, UInt8.toNat_ofNat_of_lt' (by show h < 256; omega)]
    show (16 * h + l) / 16 = h
    omega
  · apply UInt8.toNat_inj.mp
    rw [UInt8.toNat_mod, hv, UInt8.toNat_ofNat_of_lt' (by show l < 256; omega)]
    show (16 * h + l) % 16 = l
    omega

/-- A text of whole pairs of digits is the written form of what it stands for. -/
theorem encode_bytes : ∀ s, s.length % 2 = 0 → IsLower s → encode (bytes s) = s
  | [], _, _ => rfl
  | [_], h, _ => absurd h (by simp)
  | high :: low :: rest, h, hs => by
    simp only [isLower_cons] at hs
    obtain ⟨h1, h2, h3⟩ := hs
    have hlen : rest.length % 2 = 0 := by
      simp only [List.length_cons] at h
      omega
    obtain ⟨e1, e2⟩ := halves (idxOf_lt h1) (idxOf_lt h2)
    rw [bytes, encode, encode_bytes rest hlen h3, e1, e2, digit_idxOf _ h1, digit_idxOf _ h2]

theorem encode_injective {a b : Bytes} (h : encode a = encode b) : a = b := by
  rw [← bytes_encode a, h, bytes_encode]

end Hex

namespace LittleEndian

@[simp] theorem length_encode (width n : Nat) : (encode width n).length = width := by
  induction width generalizing n with
  | zero => rfl
  | succ width ih => rw [encode, List.length_cons, ih]

theorem decode_encode {width n : Nat} (h : n < 256 ^ width) : decode (encode width n) = n := by
  induction width generalizing n with
  | zero =>
    rw [Nat.pow_zero] at h
    show 0 = n
    omega
  | succ width ih =>
    rw [Nat.pow_succ] at h
    have hm : n % 256 < 256 := Nat.mod_lt _ (by decide)
    rw [encode, decode, ih (by omega), UInt8.toNat_ofNat_of_lt' (by show _ < 256; omega)]
    omega

theorem encode_decode (bs : Bytes) : encode bs.length (decode bs) = bs := by
  induction bs with
  | nil => rfl
  | cons b bs ih =>
    have hb := b.toNat_lt
    have hm : (b.toNat + 256 * decode bs) % 256 = b.toNat := by omega
    have hd : (b.toNat + 256 * decode bs) / 256 = decode bs := by omega
    rw [List.length_cons, encode, decode, hm, hd, ih, UInt8.ofNat_toNat]

end LittleEndian
end Passage
