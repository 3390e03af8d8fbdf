import Passage.Proofs.Answers

/- Tokens by their fields.

   A text of the three fields meets all requirements of form, so three of substance
   are left: the level, the expiry and the tag (`firstUnmet_text`). For the token that
   a key signs the tag is right, so the level and the expiry decide
   (`firstUnmet_signed`). -/
namespace Passage.Token

theorem text_eq (level : UInt8) (expiry tag : Bytes) : text level expiry tag =
    Hex.encode [level] ++ separator :: (Hex.encode expiry ++ separator :: Hex.encode tag) := by
  simp only [text, pieces, List.flatten_cons, List.flatten_nil, List.append_nil, List.cons_append,
    List.nil_append]

theorem extract_expiry_text (level : UInt8) {expiry : Bytes} (he : expiry.length = 8) (tag : Bytes) :
    (text level expiry tag).extract 3 19 = Hex.encode expiry :=
  Bytes.extract_of_eq (a := Hex.encode [level] ++ [separator]) (c := separator :: Hex.encode tag)
    (by simp [text_eq]) rfl (by rw [Hex.length_encode, he])

/-- Of a token that is put together from its fields only the level, the expiry and the tag are
left to check. -/
theorem firstUnmet_text (key : Bytes) (now : Instant) (id : Identity) (level : UInt8)
    {expiry tag : Bytes} (he : expiry.length = 8) (ht : tag.length = 32) :
    firstUnmet (requirements key now id (text level expiry tag)) =
      firstUnmet [⟨id.level ≤ level, .levelTooLow⟩,
        ⟨max 0 (now.toNanos / (billion : Int)) ≤ LittleEndian.decode expiry, .expired⟩,
        ⟨tag = Hmac.tag key (id.host ++ id.address.octets ++ [level] ++ expiry), .invalidHmac⟩] := by
  have hx : (Hex.encode expiry).length = 16 := by rw [Hex.length_encode, he]
  have hy : (Hex.encode tag).length = 64 := by rw [Hex.length_encode, ht]
  have hlen : (text level expiry tag).length = 84 := by rw [length_text, he, ht]
  have hne : text level expiry tag ≠ [] := by
    intro h
    rw [h] at hlen
    cases hlen
  -- Each field and separator by its place.
  have hlevel : (text level expiry tag).extract 0 2 = Hex.encode [level] :=
    Bytes.extract_of_eq (a := []) (text_eq level expiry tag) rfl rfl
  have hfirst : (text level expiry tag)[2]? = some separator :=
    Bytes.getElem?_of_eq (text_eq level expiry tag) rfl
  have hexpiry := extract_expiry_text level he tag
  have hsecond : (text level expiry tag)[19]? = some separator :=
    Bytes.getElem?_of_eq (a := Hex.encode [level] ++ [separator] ++ Hex.encode expiry)
      (c := Hex.encode tag) (by simp [text_eq]) (by simp [hx])
  have htag : (text level expiry tag).extract 20 84 = Hex.encode tag :=
    Bytes.extract_of_eq (a := Hex.encode [level] ++ [separator] ++ Hex.encode expiry ++ [separator])
      (c := []) (by simp [text_eq]) (by simp [hx]) (by rw [hy])
  simp only [requirements, firstUnmet_cons, hne, hlen, hlevel, hfirst, hexpiry, hsecond, htag,
    Hex.isLower_encode, Hex.bytes_encode, List.headD_cons, ne_eq, not_false_eq_true, if_true]

/-- A signed token, shown at any level and at any time. -/
theorem firstUnmet_signed (key : Bytes) (now : Instant) (id : Identity) (level : UInt8)
    {expires : Nat} (h : expires < wordLimit) :
    firstUnmet (requirements key now { id with level } (signed key id expires)) =
      if level ≤ id.level then
        if max 0 (now.toNanos / (billion : Int)) ≤ expires then .ok () else .error .expired
      else .error .levelTooLow := by
  have hd : LittleEndian.decode (LittleEndian.encode 8 expires) = expires :=
    LittleEndian.decode_encode h
  have hm : message id (LittleEndian.encode 8 expires) =
      id.host ++ id.address.octets ++ [id.level] ++ LittleEndian.encode 8 expires := rfl
  rw [signed, fields, ← text, firstUnmet_text key now { id with level } id.level
    (LittleEndian.length_encode ..) (Hmac.length_tag ..), hd, ← hm]
  simp only [firstUnmet_cons, if_true]
  rfl

end Passage.Token
