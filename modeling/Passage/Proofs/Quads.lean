import Passage.Proofs.Sextets

/- Base64 is read quad by quad.

   1. `pack` takes the values of a quad back to the bytes whose symbols they are
      (`pack_three`, `encode_pack`). `Last` says which values can end a text: two to four,
      with no bits left over.
   2. The reader of the last quad, the reader of all quads and the decoder each take what the
      encoder writes and nothing else (`decodeLast_eq_ok_iff`, `decodeFrom_eq_ok_iff`,
      `decode_eq_ok_iff`). -/
namespace Passage.Base64

/-! Values. -/

theorem values_eq_ok_iff {offset : Nat} {s : Bytes} {vs : List Nat} :
    values offset s = .ok vs ↔ (∀ v ∈ vs, v < 64) ∧ vs.map symbol = s := by
  induction s generalizing offset vs with
  | nil =>
    rw [values, Except.ok.injEq, List.map_eq_nil_iff]
    constructor
    · rintro rfl
      simp
    · exact fun h => h.2.symm
  | cons c s ih =>
    rw [values]
    constructor
    · intro h
      split at h
      · cases h
      · next v hv =>
        obtain ⟨hlt, hsymbol⟩ := value?_eq_some_iff.mp hv
        split at h
        · cases h
        · next ws hws =>
          cases h
          obtain ⟨hall, hmap⟩ := ih.mp hws
          exact ⟨List.forall_mem_cons.mpr ⟨hlt, hall⟩, by rw [List.map_cons, hsymbol, hmap]⟩
    · rintro ⟨hall, hmap⟩
      obtain ⟨v, ws, rfl, hsymbol, hrest⟩ := List.map_eq_cons_iff.mp hmap
      obtain ⟨hlt, hall⟩ := List.forall_mem_cons.mp hall
      simp only [value?_eq_some_iff.mpr ⟨hlt, hsymbol⟩, ih.mpr ⟨hall, hrest⟩]

/-! Bytes of a quad. -/

theorem toNat_byte {n : Nat} (h : n < 256) : (UInt8.ofNat n).toNat = n :=
  UInt8.toNat_ofNat_of_lt' h

theorem byte_eq {n : Nat} {b : UInt8} (h : n = b.toNat) : UInt8.ofNat n = b := by
  rw [h, UInt8.ofNat_toNat]

theorem pack_three (a b c : UInt8) :
    pack [a.toNat / 4, a.toNat % 4 * 16 + b.toNat / 16, b.toNat % 16 * 4 + c.toNat / 64,
      c.toNat % 64] = [a, b, c] := by
  have ha := a.toNat_lt
  have hb := b.toNat_lt
  have hc := c.toNat_lt
  rw [pack, byte_eq (b := a) (by omega), byte_eq (b := b) (by omega), byte_eq (b := c) (by omega)]

/-! The encoder cuts the values of a quad out of its bytes again. -/

theorem first_value {a b : Nat} (hb : b < 64) : (a * 4 + b / 16) / 4 = a := by omega

theorem second_value {a b c : Nat} (hb : b < 64) (hc : c < 64) :
    (a * 4 + b / 16) % 4 * 16 + (b % 16 * 16 + c / 4) / 16 = b := by omega

theorem third_value {b c d : Nat} (hc : c < 64) (hd : d < 64) :
    (b % 16 * 16 + c / 4) % 16 * 4 + (c % 4 * 64 + d) / 64 = c := by omega

theorem fourth_value {c d : Nat} (hd : d < 64) : (c % 4 * 64 + d) % 64 = d := by omega

theorem encode_pack_append {a b c d : Nat} (ha : a < 64) (hb : b < 64) (hc : c < 64) (hd : d < 64)
    (rest : Bytes) : encode (pack [a, b, c, d] ++ rest) = [a, b, c, d].map symbol ++ encode rest := by
  simp only [pack, List.cons_append, List.nil_append, encode, List.map_cons, List.map_nil]
  rw [toNat_byte (by omega), toNat_byte (by omega), toNat_byte (by omega), first_value hb,
    second_value hb hc, third_value hc hd, fourth_value hd]

/-- The values can end a text. -/
structure Last (vs : List Nat) : Prop where
  below : ∀ v ∈ vs, v < 64
  two_le : 2 ≤ vs.length
  le_four : vs.length ≤ 4
  unused_eq : unused vs = 0

/-- The last four bytes of a text that ends with these values. -/
def lastQuad (vs : List Nat) : Bytes := vs.map symbol ++ List.replicate (4 - vs.length) pad

theorem encode_pack {vs : List Nat} (h : Last vs) :
    encode (pack vs) = lastQuad vs ∧ pack vs ≠ [] ∧ (pack vs).length ≤ 3 := by
  obtain ⟨hbelow, htwo, hfour, hunused⟩ := h
  match vs with
  | [a, b] =>
    simp only [List.forall_mem_cons] at hbelow
    obtain ⟨ha, hb, -⟩ := hbelow
    simp only [unused] at hunused
    refine ⟨?_, by simp [pack], by simp [pack]⟩
    have hlast : (a * 4 + b / 16) % 4 * 16 = b := by omega
    rw [pack, encode, toNat_byte (by omega), first_value hb, hlast]
    rfl
  | [a, b, c] =>
    simp only [List.forall_mem_cons] at hbelow
    obtain ⟨ha, hb, hc, -⟩ := hbelow
    simp only [unused] at hunused
    refine ⟨?_, by simp [pack], by simp [pack]⟩
    have hlast : (b % 16 * 16 + c / 4) % 16 * 4 = c := by omega
    rw [pack, encode, toNat_byte (by omega), toNat_byte (by omega), first_value hb,
      second_value hb hc, hlast]
    rfl
  | [a, b, c, d] =>
    simp only [List.forall_mem_cons] at hbelow
    obtain ⟨ha, hb, hc, hd, -⟩ := hbelow
    refine ⟨?_, by simp [pack], by simp [pack]⟩
    have hquad := encode_pack_append ha hb hc hd []
    rwa [List.append_nil] at hquad

/-- One to three bytes are what some last values stand for. -/
theorem exists_last {bs : Bytes} (hne : bs ≠ []) (h : bs.length ≤ 3) :
    ∃ vs, Last vs ∧ pack vs = bs := by
  match bs with
  | [a] =>
    have ha := a.toNat_lt
    refine ⟨[a.toNat / 4, a.toNat % 4 * 16], ⟨?_, by simp, by simp, ?_⟩, ?_⟩
    · simp only [List.forall_mem_cons]
      exact ⟨by omega, by omega, by simp⟩
    · simp only [unused]
      omega
    · rw [pack, byte_eq (b := a) (by omega)]
  | [a, b] =>
    have ha := a.toNat_lt
    have hb := b.toNat_lt
    refine ⟨[a.toNat / 4, a.toNat % 4 * 16 + b.toNat / 16, b.toNat % 16 * 4],
      ⟨?_, by simp, by simp, ?_⟩, ?_⟩
    · simp only [List.forall_mem_cons]
      exact ⟨by omega, by omega, by omega, by simp⟩
    · simp only [unused]
      omega
    · rw [pack, byte_eq (b := a) (by omega), byte_eq (b := b) (by omega)]
  | [a, b, c] =>
    have ha := a.toNat_lt
    have hb := b.toNat_lt
    have hc := c.toNat_lt
    refine ⟨_, ⟨?_, by simp, by simp, rfl⟩, pack_three a b c⟩
    simp only [List.forall_mem_cons]
    exact ⟨by omega, by omega, by omega, by omega, by simp⟩

/-! The last quad. -/

theorem takeWhile_lastQuad {vs : List Nat} (h : ∀ v ∈ vs, v < 64) :
    (lastQuad vs).takeWhile (· ≠ pad) = vs.map symbol ∧
      (lastQuad vs).dropWhile (· ≠ pad) = List.replicate (4 - vs.length) pad := by
  have hall : ∀ c ∈ vs.map symbol, decide (c ≠ pad) = true := by
    intro c hc
    obtain ⟨v, hv, rfl⟩ := List.mem_map.mp hc
    simpa using symbol_ne_pad v (h v hv)
  rw [lastQuad, List.takeWhile_append_of_pos hall, List.dropWhile_append_of_pos hall]
  cases 4 - vs.length <;> simp [List.replicate_succ]

theorem decodeLast_lastQuad {vs : List Nat} (h : Last vs) (offset : Nat) :
    decodeLast offset (lastQuad vs) = .ok (pack vs) := by
  obtain ⟨hsymbols, hpads⟩ := takeWhile_lastQuad h.below
  have hvalues : values offset (vs.map symbol) = .ok vs := values_eq_ok_iff.mpr ⟨h.below, rfl⟩
  have htwo := h.two_le
  have hfour := h.le_four
  simp only [decodeLast, hsymbols, hpads, hvalues, List.length_replicate, h.unused_eq]
  rw [if_neg, if_neg (by omega), if_neg (by omega), if_neg (by simp)]
  rintro ⟨-, hshort | hforeign⟩
  · omega
  · simp at hforeign

theorem lastQuad_of_decodeLast {offset : Nat} {quad bs : Bytes}
    (h : decodeLast offset quad = .ok bs) : ∃ vs, Last vs ∧ quad = lastQuad vs ∧ bs = pack vs := by
  have hsplit := List.takeWhile_append_dropWhile (p := (· ≠ pad)) (l := quad)
  simp only [decodeLast] at h
  generalize quad.takeWhile (· ≠ pad) = symbols at h hsplit
  generalize quad.dropWhile (· ≠ pad) = pads at h hsplit
  split at h
  · cases h
  · next vs hvs =>
    obtain ⟨hbelow, rfl⟩ := values_eq_ok_iff.mp hvs
    split at h
    · cases h
    · next hpads =>
      split at h
      · cases h
      · next htwo =>
        split at h
        · cases h
        · next hfour =>
          split at h
          · cases h
          · next hunused =>
            cases h
            refine ⟨vs, ⟨hbelow, by omega, by omega, by omega⟩, ?_, rfl⟩
            -- What stands behind the first padding is padding.
            have hall : ∀ c ∈ pads, c = pad := by
              intro c hc
              by_contra hne
              exact hpads ⟨List.ne_nil_of_mem hc, .inr (List.any_eq_true.mpr ⟨c, hc, by simpa using hne⟩)⟩
            have hlength : pads.length = 4 - vs.length := by omega
            rw [lastQuad, ← hsplit, List.eq_replicate_iff.mpr ⟨hlength, hall⟩]

theorem decodeLast_eq_ok_iff {offset : Nat} {quad bs : Bytes} :
    decodeLast offset quad = .ok bs ↔ bs ≠ [] ∧ bs.length ≤ 3 ∧ quad = encode bs := by
  constructor
  · intro h
    obtain ⟨vs, hlast, rfl, rfl⟩ := lastQuad_of_decodeLast h
    obtain ⟨htext, hne, hlength⟩ := encode_pack hlast
    exact ⟨hne, hlength, htext.symm⟩
  · rintro ⟨hne, hlength, rfl⟩
    obtain ⟨vs, hlast, rfl⟩ := exists_last hne hlength
    rw [(encode_pack hlast).1]
    exact decodeLast_lastQuad hlast offset

/-! Whole texts. -/

theorem quad_eq_encode_iff {quad bs : Bytes} (hne : quad ≠ []) (hlength : quad.length ≤ 4) :
    quad = encode bs ↔ bs ≠ [] ∧ bs.length ≤ 3 ∧ quad = encode bs := by
  constructor
  · rintro rfl
    rw [length_encode] at hlength
    refine ⟨?_, by omega, rfl⟩
    rintro rfl
    exact hne rfl
  · exact fun h => h.2.2

/-- A text that goes on behind a quad is written for the three bytes of this quad and others. -/
theorem quad_append_eq_encode_iff (offset : Nat) {a b c d : UInt8} {tail bs : Bytes}
    (hne : tail ≠ []) : a :: b :: c :: d :: tail = encode bs ↔
      ∃ vs rest, values offset [a, b, c, d] = .ok vs ∧ tail = encode rest ∧ bs = pack vs ++ rest := by
  constructor
  · intro h
    rcases bs with _ | ⟨x, _ | ⟨y, _ | ⟨z, rest⟩⟩⟩
    · simp [encode] at h
    · simp [encode, hne] at h
    · simp [encode, hne] at h
    · have hx := x.toNat_lt
      have hy := y.toNat_lt
      have hz := z.toNat_lt
      simp only [encode, List.cons.injEq] at h
      obtain ⟨rfl, rfl, rfl, rfl, rfl⟩ := h
      refine ⟨_, rest, values_eq_ok_iff.mpr ⟨?_, rfl⟩, rfl, by rw [pack_three]; rfl⟩
      simp only [List.forall_mem_cons]
      exact ⟨by omega, by omega, by omega, by omega, by simp⟩
  · rintro ⟨vs, rest, hvalues, rfl, rfl⟩
    obtain ⟨hbelow, hmap⟩ := values_eq_ok_iff.mp hvalues
    have hlength : vs.length = 4 := by simpa using congrArg List.length hmap
    obtain ⟨v, w, x, y, rfl⟩ := List.length_eq_four.mp hlength
    simp only [List.forall_mem_cons] at hbelow
    obtain ⟨hv, hw, hx, hy, -⟩ := hbelow
    rw [encode_pack_append hv hw hx hy, hmap]
    rfl

theorem decodeFrom_eq_ok_iff {offset : Nat} {text bs : Bytes} :
    decodeFrom offset text = .ok bs ↔ text = encode bs := by
  fun_induction decodeFrom offset text generalizing bs with
  | case1 offset =>
    rw [Except.ok.injEq]
    constructor
    · rintro rfl
      rfl
    · intro h
      have hlength := congrArg List.length h
      rw [length_encode, List.length_nil] at hlength
      exact (List.eq_nil_of_length_eq_zero (by omega)).symm
  | case2 offset a b c d e rest fault hvalues =>
    rw [quad_append_eq_encode_iff offset (by simp), hvalues]
    simp
  | case3 offset a b c d e rest vs hvalues fault hrest ih =>
    rw [quad_append_eq_encode_iff offset (by simp), hvalues]
    refine iff_of_false (by simp) ?_
    rintro ⟨vs', bs', -, htail, -⟩
    rw [← ih, hrest] at htail
    cases htail
  | case4 offset a b c d e rest vs hvalues bs' hrest ih =>
    rw [quad_append_eq_encode_iff offset (by simp), hvalues]
    constructor
    · intro h
      cases h
      exact ⟨vs, bs', rfl, ih.mp hrest, rfl⟩
    · rintro ⟨vs', bs'', hvs, htail, rfl⟩
      rw [← ih, hrest] at htail
      cases hvs
      cases htail
      rfl
  | case5 offset quad hne hshort =>
    have hlength : quad.length ≤ 4 := by
      match quad with
      | [] | [_] | [_, _] | [_, _, _] | [_, _, _, _] => simp
      | a :: b :: c :: d :: e :: rest => exact absurd rfl (hshort a b c d e rest)
    rw [decodeLast_eq_ok_iff, ← quad_eq_encode_iff hne hlength]

/-- **The decoder takes what the encoder writes**, and nothing else. -/
theorem decode_eq_ok_iff {text bs : Bytes} : decode text = .ok bs ↔ text = encode bs := by
  rw [decode]
  split
  · next hlast =>
    obtain rfl := List.getLast?_eq_none_iff.mp hlast
    rw [← @decodeFrom_eq_ok_iff 0, decodeFrom]
  · split
    · next hleft =>
      -- One byte is left over behind whole quads.
      refine iff_of_false (by simp) ?_
      rintro rfl
      rw [length_encode_mod] at hleft
      exact absurd hleft.1 (by decide)
    · exact decodeFrom_eq_ok_iff

end Passage.Base64
