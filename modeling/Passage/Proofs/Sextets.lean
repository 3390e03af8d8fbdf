import Mathlib.Data.List.Nodup
import Passage.Bytes.Base64
import Passage.Proofs.Codecs

/- Base64 carries six bits a symbol.

   1. `Spells` says which text stands for which bytes, by their bits: the symbols carry
      the bits of the bytes in order, zeros fill the last symbol up, and padding the last
      four. Neither the encoder nor the decoder is in it.
   2. Numbers are cut into bits from the end (`bits_split`), so the symbols that the encoder
      cuts out of one, two or three bytes carry their bits (`symbolBits_one`,
      `symbolBits_two`, `symbolBits_three`), and what it writes spells the bytes
      (`spells_encode`).
   3. No two texts spell the same bytes (`Spells.unique`), so the one that does is what the
      encoder writes (`spells_iff`). -/
namespace Passage.Base64

/-- The symbols of the standard alphabet in the order of their values. -/
def alphabet : Bytes :=
  Bytes.ofText "ABCDEFGHIJKLMNOPQRSTUVWXYZabcdefghijklmnopqrstuvwxyz0123456789+/"

/-- The last `width` bits of a number, the highest first. -/
def bits : Nat → Nat → List Bool
  | 0, _ => []
  | width + 1, n => bits width (n / 2) ++ [n % 2 == 1]

def byteBits (bs : Bytes) : List Bool := bs.flatMap fun b => bits 8 b.toNat

def symbolBits (symbols : Bytes) : List Bool :=
  symbols.flatMap fun c => bits 6 (alphabet.idxOf c)

/-- The text stands for the bytes: its symbols carry their bits and the fewest zeros that fill the
last symbol up, and the least padding that fills the last four up stands behind. -/
def Spells (text bs : Bytes) : Prop :=
  ∃ symbols zeros pads, (∀ c ∈ symbols, c ∈ alphabet) ∧
    symbolBits symbols = byteBits bs ++ List.replicate zeros false ∧ zeros < 6 ∧
    text = symbols ++ List.replicate pads pad ∧ text.length % 4 = 0 ∧ pads < 4

/-! Symbols. Six bits have 64 values and a byte has 256, so these are run through. -/

theorem alphabet_eq : alphabet = (List.range 64).map symbol := by decide +kernel

theorem value?_symbol : ∀ n < 64, value? (symbol n) = some n := by decide +kernel

theorem symbol_ne_pad (n : Nat) (h : n < 64) : symbol n ≠ pad := by
  intro hpad
  have hvalue := value?_symbol n h
  rw [hpad] at hvalue
  cases hvalue

theorem symbol_of_value? : ∀ c : UInt8, ∀ v ∈ value? c, v < 64 ∧ symbol v = c :=
  Hex.byte_cases (by decide +kernel)

theorem value?_eq_some_iff {c : UInt8} {v : Nat} : value? c = some v ↔ v < 64 ∧ symbol v = c := by
  constructor
  · exact symbol_of_value? c v
  · rintro ⟨hv, rfl⟩
    exact value?_symbol v hv

theorem mem_alphabet_iff {c : UInt8} : c ∈ alphabet ↔ ∃ v < 64, symbol v = c := by
  simp [alphabet_eq]

theorem symbol_mem (n : Nat) (h : n < 64) : symbol n ∈ alphabet := mem_alphabet_iff.mpr ⟨n, h, rfl⟩

theorem idxOf_symbol {n : Nat} (h : n < 64) : alphabet.idxOf (symbol n) = n := by
  have hnodup : ((List.range 64).map symbol).Nodup := by
    refine List.Nodup.map_on (fun k hk m hm heq => ?_) List.nodup_range
    have hvalue := value?_symbol k (List.mem_range.mp hk)
    rw [heq, value?_symbol m (List.mem_range.mp hm)] at hvalue
    exact (Option.some.inj hvalue).symm
  have hlength : n < ((List.range 64).map symbol).length := by simpa using h
  have hget : ((List.range 64).map symbol)[n] = symbol n := by simp
  rw [alphabet_eq, ← hget, hnodup.idxOf_getElem n hlength]

theorem symbol_idxOf {c : UInt8} (h : c ∈ alphabet) : symbol (alphabet.idxOf c) = c := by
  obtain ⟨v, hv, rfl⟩ := mem_alphabet_iff.mp h
  rw [idxOf_symbol hv]

theorem idxOf_lt {c : UInt8} (h : c ∈ alphabet) : alphabet.idxOf c < 64 := by
  obtain ⟨v, hv, rfl⟩ := mem_alphabet_iff.mp h
  rwa [idxOf_symbol hv]

/-! Bits. -/

@[simp] theorem length_bits (width n : Nat) : (bits width n).length = width := by
  induction width generalizing n with
  | zero => rfl
  | succ width ih => simp [bits, ih]

theorem bits_add (m : Nat) {k x y : Nat} (h : y < 2 ^ k) :
    bits (m + k) (x * 2 ^ k + y) = bits m x ++ bits k y := by
  induction k generalizing y with
  | zero =>
    have hy : y = 0 := by simpa using h
    simp [hy, bits]
  | succ k ih =>
    have hpow : x * 2 ^ (k + 1) = x * 2 ^ k * 2 := by rw [Nat.pow_succ, Nat.mul_assoc]
    have hhalf : (x * 2 ^ (k + 1) + y) / 2 = x * 2 ^ k + y / 2 := by omega
    have hlast : (x * 2 ^ (k + 1) + y) % 2 = y % 2 := by omega
    have hy : y / 2 < 2 ^ k := by
      rw [Nat.pow_succ] at h
      omega
    rw [← Nat.add_assoc, bits, hhalf, hlast, ih hy, bits, List.append_assoc]

theorem bits_zero (k : Nat) : bits k 0 = List.replicate k false := by
  induction k with
  | zero => rfl
  | succ k ih => rw [bits, Nat.zero_div, ih, List.replicate_succ']; rfl

theorem bits_inj {width m n : Nat} (hm : m < 2 ^ width) (hn : n < 2 ^ width)
    (h : bits width m = bits width n) : m = n := by
  induction width generalizing m n with
  | zero =>
    rw [Nat.pow_zero] at hm hn
    omega
  | succ width ih =>
    rw [Nat.pow_succ] at hm hn
    obtain ⟨hhigh, hlow⟩ := List.append_inj h (by simp)
    have hhalf : m / 2 = n / 2 := ih (by omega) (by omega) hhigh
    have hlast : m % 2 = 1 ↔ n % 2 = 1 := by simpa using hlow
    omega

/-- The bits of a number, cut in two. -/
theorem bits_split (m k n : Nat) : bits (m + k) n = bits m (n / 2 ^ k) ++ bits k (n % 2 ^ k) := by
  rw [← bits_add m (Nat.mod_lt n (Nat.two_pow_pos k)), Nat.div_add_mod']

theorem symbolBits_cons {v : Nat} (h : v < 64) (symbols : Bytes) :
    symbolBits (symbol v :: symbols) = bits 6 v ++ symbolBits symbols := by
  rw [symbolBits, List.flatMap_cons, idxOf_symbol h, symbolBits]

theorem byteBits_cons (b : UInt8) (bs : Bytes) : byteBits (b :: bs) = bits 8 b.toNat ++ byteBits bs :=
  List.flatMap_cons ..

/-! What the encoder writes. The bits of three bytes are cut behind 6, 12 and 18. -/

section Quad
variable (a b c : UInt8)

theorem bits_first : bits 8 a.toNat = bits 6 (a.toNat / 4) ++ bits 2 (a.toNat % 4) :=
  bits_split 6 2 a.toNat

theorem bits_second :
    bits 6 (a.toNat % 4 * 16 + b.toNat / 16) = bits 2 (a.toNat % 4) ++ bits 4 (b.toNat / 16) := by
  have hb := b.toNat_lt
  exact bits_add 2 (k := 4) (by omega)

theorem bits_third :
    bits 6 (b.toNat % 16 * 4 + c.toNat / 64) = bits 4 (b.toNat % 16) ++ bits 2 (c.toNat / 64) := by
  have hc := c.toNat_lt
  exact bits_add 4 (k := 2) (by omega)

theorem symbolBits_three (symbols : Bytes) :
    symbolBits (symbol (a.toNat / 4) :: symbol (a.toNat % 4 * 16 + b.toNat / 16) ::
      symbol (b.toNat % 16 * 4 + c.toNat / 64) :: symbol (c.toNat % 64) :: symbols) =
    byteBits [a, b, c] ++ symbolBits symbols := by
  have ha := a.toNat_lt
  have hb := b.toNat_lt
  have hc := c.toNat_lt
  have hmid : bits 8 b.toNat = bits 4 (b.toNat / 16) ++ bits 4 (b.toNat % 16) :=
    bits_split 4 4 b.toNat
  have hlast : bits 8 c.toNat = bits 2 (c.toNat / 64) ++ bits 6 (c.toNat % 64) :=
    bits_split 2 6 c.toNat
  rw [symbolBits_cons (by omega), symbolBits_cons (by omega), symbolBits_cons (by omega),
    symbolBits_cons (by omega), bits_second, bits_third]
  simp [byteBits, bits_first a, hmid, hlast]

/-- Two bytes leave two bits of a third symbol free. -/
theorem symbolBits_two :
    symbolBits [symbol (a.toNat / 4), symbol (a.toNat % 4 * 16 + b.toNat / 16),
      symbol (b.toNat % 16 * 4)] = byteBits [a, b] ++ List.replicate 2 false := by
  have ha := a.toNat_lt
  have hb := b.toNat_lt
  have hmid : bits 8 b.toNat = bits 4 (b.toNat / 16) ++ bits 4 (b.toNat % 16) :=
    bits_split 4 4 b.toNat
  have hlast : bits 6 (b.toNat % 16 * 4) = bits 4 (b.toNat % 16) ++ bits 2 0 := bits_third b 0
  rw [symbolBits_cons (by omega), symbolBits_cons (by omega), symbolBits_cons (by omega),
    bits_second, hlast, bits_zero]
  simp [byteBits, symbolBits, bits_first a, hmid]

/-- One byte leaves four bits of a second symbol free. -/
theorem symbolBits_one :
    symbolBits [symbol (a.toNat / 4), symbol (a.toNat % 4 * 16)] =
      byteBits [a] ++ List.replicate 4 false := by
  have ha := a.toNat_lt
  have hlast : bits 6 (a.toNat % 4 * 16) = bits 2 (a.toNat % 4) ++ bits 4 0 := bits_second a 0
  rw [symbolBits_cons (by omega), symbolBits_cons (by omega), hlast, bits_zero]
  simp [byteBits, symbolBits, bits_first a]

end Quad

@[simp] theorem length_encode : ∀ bs, (encode bs).length = 4 * ((bs.length + 2) / 3)
  | [] => rfl
  | [_] | [_, _] => by simp [encode]
  | _ :: _ :: _ :: rest => by
    have ih := length_encode rest
    simp only [encode, List.length_cons, ih]
    omega

theorem length_encode_mod (bs : Bytes) : (encode bs).length % 4 = 0 := by
  rw [length_encode, Nat.mul_mod_right]

theorem spells_encode : ∀ bs, Spells (encode bs) bs
  | [] => ⟨[], 0, 0, by simp, rfl, by decide, rfl, rfl, by decide⟩
  | [a] => by
    have ha := a.toNat_lt
    refine ⟨_, 4, 2, ?_, symbolBits_one a, by decide, rfl, length_encode_mod _, by decide⟩
    simp only [List.forall_mem_cons]
    exact ⟨symbol_mem _ (by omega), symbol_mem _ (by omega), by simp⟩
  | [a, b] => by
    have ha := a.toNat_lt
    have hb := b.toNat_lt
    refine ⟨_, 2, 1, ?_, symbolBits_two a b, by decide, rfl, length_encode_mod _, by decide⟩
    simp only [List.forall_mem_cons]
    exact ⟨symbol_mem _ (by omega), symbol_mem _ (by omega), symbol_mem _ (by omega), by simp⟩
  | a :: b :: c :: rest => by
    have ha := a.toNat_lt
    have hb := b.toNat_lt
    have hc := c.toNat_lt
    obtain ⟨symbols, zeros, pads, hmem, hbits, hzeros, htext, -, hpads⟩ := spells_encode rest
    have hthree := symbolBits_three a b c symbols
    rw [hbits, ← List.append_assoc] at hthree
    refine ⟨_, zeros, pads, ?_, hthree.trans (by simp [byteBits]), hzeros, ?_,
      length_encode_mod _, hpads⟩
    · simp only [List.forall_mem_cons]
      exact ⟨symbol_mem _ (by omega), symbol_mem _ (by omega), symbol_mem _ (by omega),
        symbol_mem _ (by omega), hmem⟩
    · rw [encode, htext]
      rfl

/-! One text for all bytes. -/

@[simp] theorem length_byteBits (bs : Bytes) : (byteBits bs).length = 8 * bs.length := by
  induction bs with
  | nil => rfl
  | cons b bs ih =>
    rw [byteBits_cons, List.length_append, length_bits, ih, List.length_cons]
    omega

@[simp] theorem length_symbolBits (symbols : Bytes) :
    (symbolBits symbols).length = 6 * symbols.length := by
  induction symbols with
  | nil => rfl
  | cons c symbols ih =>
    rw [symbolBits] at ih ⊢
    rw [List.flatMap_cons, List.length_append, length_bits, ih, List.length_cons]
    omega

theorem symbolBits_inj {xs ys : Bytes} (hx : ∀ c ∈ xs, c ∈ alphabet) (hy : ∀ c ∈ ys, c ∈ alphabet)
    (h : symbolBits xs = symbolBits ys) : xs = ys := by
  induction xs generalizing ys with
  | nil =>
    have hlength := congrArg List.length h
    simp only [length_symbolBits, List.length_nil] at hlength
    exact (List.eq_nil_of_length_eq_zero (by omega)).symm
  | cons x xs ih =>
    cases ys with
    | nil =>
      have hlength := congrArg List.length h
      simp at hlength
    | cons y ys =>
      rw [List.forall_mem_cons] at hx hy
      obtain ⟨hhead, htail⟩ := List.append_inj (h : bits 6 _ ++ symbolBits xs = bits 6 _ ++ symbolBits ys)
        (by simp)
      have hidx := bits_inj (idxOf_lt hx.1) (idxOf_lt hy.1) hhead
      rw [← symbol_idxOf hx.1, hidx, symbol_idxOf hy.1, ih hx.2 hy.2 htail]

theorem Spells.unique {s t bs : Bytes} (hs : Spells s bs) (ht : Spells t bs) : s = t := by
  obtain ⟨xs, zeros, pads, hx, hxbits, hzeros, rfl, hwhole, hpads⟩ := hs
  obtain ⟨ys, zeros', pads', hy, hybits, hzeros', rfl, hwhole', hpads'⟩ := ht
  have hxlen := congrArg List.length hxbits
  have hylen := congrArg List.length hybits
  simp only [length_symbolBits, List.length_append, length_byteBits, List.length_replicate]
    at hxlen hylen hwhole hwhole'
  -- There are as many symbols as the bits need, and so as many zeros and as much padding.
  have hlength : xs.length = ys.length := by omega
  obtain rfl : zeros = zeros' := by omega
  obtain rfl : pads = pads' := by omega
  rw [symbolBits_inj hx hy (hxbits.trans hybits.symm)]

/-- The text that stands for bytes is the one that the encoder writes. -/
theorem spells_iff {text bs : Bytes} : Spells text bs ↔ text = encode bs :=
  ⟨fun h => h.unique (spells_encode bs), fun h => h ▸ spells_encode bs⟩

end Passage.Base64
