import Passage.Proofs.Messages
import Passage.Proofs.Sessions
import Passage.Proofs.TokenText

/- A good token has one spelling.

   What a token shows is read off its bytes: a level, an expiry, a tag (`levelOf`,
   `expiryOf`, `tagOf`). A token of the right form is the text of what it shows
   (`WellFormed.eq_text`), and a good one shows the tag of its level and expiry
   (`ok_iff`). So two good tokens of one message are one text (`eq_of_ok`), and a good
   token cannot be changed into another good one

   1. at its separators or in its tag, in the case of its letters, or in its length, at
      all;
   2. in its level and its expiry, unless the messages of the two tokens collide
      (`ok_changed_iff`). -/
namespace Passage

/-- The small letter of an ASCII capital; every other byte is left as it is. -/
def Bytes.lower (b : UInt8) : UInt8 := if 65 ≤ b ∧ b ≤ 90 then b + 32 else b

namespace Token

/-! What a token shows. -/

def levelOf (token : Bytes) : UInt8 := (Hex.bytes (token.extract 0 2)).headD 0

def expiryOf (token : Bytes) : Bytes := Hex.bytes (token.extract 3 19)

def tagOf (token : Bytes) : Bytes := Hex.bytes (token.extract 20 84)

/-- The message that its tag must be of, for an identity. -/
def messageOf (id : Identity) (token : Bytes) : Bytes :=
  message { id with level := levelOf token } (expiryOf token)

/-- The places of the level and of the expiry. -/
def InClaim (i : Nat) : Prop := i < 2 ∨ (3 ≤ i ∧ i < 19)

/-- The places of the separators and of the tag. -/
def InSeal (i : Nat) : Prop := i = 2 ∨ i = 19 ∨ (20 ≤ i ∧ i < 84)

structure WellFormed (token : Bytes) : Prop where
  length : token.length = 84
  level : Hex.IsLower (token.extract 0 2)
  first : token[2]? = some separator
  expiry : Hex.IsLower (token.extract 3 19)
  second : token[19]? = some separator
  tag : Hex.IsLower (token.extract 20 84)

/-- A token is good if its form is right, its level and its expiry will do, and its tag is that of
its message. -/
theorem ok_iff (key : Bytes) (now : Instant) (id : Identity) (token : Bytes) :
    firstUnmet (requirements key now id token) = .ok () ↔
      WellFormed token ∧ id.level ≤ levelOf token ∧
        max 0 (now.toNanos / (billion : Int)) ≤ LittleEndian.decode (expiryOf token) ∧
        tagOf token = Hmac.tag key (messageOf id token) := by
  simp only [requirements, firstUnmet_cons_ok_iff, firstUnmet_nil_ok, and_true]
  constructor
  · rintro ⟨-, hlength, hlevel, hlow, hfirst, hexpiry, htime, hsecond, htag, hsum⟩
    exact ⟨⟨hlength, hlevel, hfirst, hexpiry, hsecond, htag⟩, hlow, htime, hsum⟩
  · rintro ⟨hform, hlow, htime, hsum⟩
    have hne : token ≠ [] := List.ne_nil_of_length_pos (by rw [hform.length]; decide)
    exact ⟨hne, hform.length, hform.level, hlow, hform.first, hform.expiry, htime, hform.second,
      hform.tag, hsum⟩

/-! One text for what is shown. -/

namespace WellFormed
variable {token : Bytes}

theorem length_expiryOf (h : WellFormed token) : (expiryOf token).length = 8 := by
  rw [expiryOf, Hex.length_bytes, Bytes.length_extract (by rw [h.length]; decide)]

theorem split (h : WellFormed token) : token = token.extract 0 2 ++ separator ::
    (token.extract 3 19 ++ separator :: token.extract 20 84) := by
  have hend : token.drop 84 = [] := List.drop_eq_nil_of_le (Nat.le_of_eq h.length)
  calc token = token.drop 0 := rfl
    _ = token.extract 0 2 ++ token.drop 2 := Bytes.drop_eq_extract (by decide)
    _ = token.extract 0 2 ++ separator :: token.drop 3 := by rw [Bytes.drop_eq_cons h.first]
    _ = token.extract 0 2 ++ separator :: (token.extract 3 19 ++ token.drop 19) := by
        rw [Bytes.drop_eq_extract (show 3 ≤ 19 by decide)]
    _ = token.extract 0 2 ++ separator :: (token.extract 3 19 ++ separator :: token.drop 20) := by
        rw [Bytes.drop_eq_cons h.second]
    _ = _ := by rw [Bytes.drop_eq_extract (show 20 ≤ 84 by decide), hend, List.append_nil]

theorem eq_text (h : WellFormed token) :
    token = text (levelOf token) (expiryOf token) (tagOf token) := by
  have hlevel : Hex.encode [levelOf token] = token.extract 0 2 := by
    have hlen : (token.extract 0 2).length = 2 := Bytes.length_extract (by rw [h.length]; decide)
    obtain ⟨level, hb⟩ := List.length_eq_one_iff.mp
      (show (Hex.bytes (token.extract 0 2)).length = 1 by rw [Hex.length_bytes, hlen])
    rw [levelOf, hb, List.headD_cons, ← hb, Hex.encode_bytes _ (by rw [hlen]) h.level]
  have hexpiry : Hex.encode (expiryOf token) = token.extract 3 19 :=
    Hex.encode_bytes _ (by rw [Bytes.length_extract (by rw [h.length]; decide)]) h.expiry
  have htag : Hex.encode (tagOf token) = token.extract 20 84 :=
    Hex.encode_bytes _ (by rw [Bytes.length_extract (Nat.le_of_eq h.length.symm)]) h.tag
  rw [text_eq, hlevel, hexpiry, htag]
  exact h.split

theorem map_lower (h : WellFormed token) : token.map Bytes.lower = token := by
  have hdigits : ∀ c ∈ Hex.digits, Bytes.lower c = c := by decide +kernel
  have hkept : ∀ c ∈ token, Bytes.lower c = c := by
    intro c hc
    rw [h.split, List.mem_append, List.mem_cons, List.mem_append, List.mem_cons] at hc
    rcases hc with hc | rfl | hc | rfl | hc
    · exact hdigits c (h.level c hc)
    · rfl
    · exact hdigits c (h.expiry c hc)
    · rfl
    · exact hdigits c (h.tag c hc)
  exact (List.map_congr_left hkept).trans (List.map_id token)

/-- Tokens that differ in the case of letters at most are one token. -/
theorem eq_of_map_lower {other : Bytes} (h : WellFormed token) (h' : WellFormed other)
    (hletters : other.map Bytes.lower = token.map Bytes.lower) : other = token := by
  rw [← h'.map_lower, hletters, h.map_lower]

end WellFormed

theorem messageOf_congr (id : Identity) {token other : Bytes} (hlevel : levelOf token = levelOf other)
    (hexpiry : expiryOf token = expiryOf other) : messageOf id token = messageOf id other := by
  rw [messageOf, messageOf, hlevel, hexpiry]

theorem messageOf_inj {id : Identity} {token other : Bytes} (h : WellFormed token)
    (h' : WellFormed other) (hm : messageOf id token = messageOf id other) :
    levelOf token = levelOf other ∧ expiryOf token = expiryOf other := by
  have hlen : (expiryOf token).length = (expiryOf other).length :=
    h.length_expiryOf.trans h'.length_expiryOf.symm
  obtain ⟨-, -, hlevel, hexpiry⟩ := (Identity.material_append_eq_iff { id with level := levelOf token }
    { id with level := levelOf other } hlen).mp hm
  exact ⟨hlevel, hexpiry⟩

/-- Two good tokens of one message are one text, whenever they are shown. -/
theorem eq_of_ok {key : Bytes} {now now' : Instant} {id : Identity} {token other : Bytes}
    (h : firstUnmet (requirements key now id token) = .ok ())
    (h' : firstUnmet (requirements key now' id other) = .ok ())
    (hm : messageOf id token = messageOf id other) : token = other := by
  obtain ⟨hform, -, -, htag⟩ := (ok_iff key now id token).mp h
  obtain ⟨hform', -, -, htag'⟩ := (ok_iff key now' id other).mp h'
  obtain ⟨hlevel, hexpiry⟩ := messageOf_inj hform hform' hm
  calc token = text (levelOf token) (expiryOf token) (tagOf token) := hform.eq_text
    _ = text (levelOf other) (expiryOf other) (tagOf other) := by
        rw [hlevel, hexpiry, htag, htag', hm]
    _ = other := hform'.eq_text.symm

/-! Changes within places. -/

theorem levelOf_congr {token other : Bytes} (h : ∀ i < 2, other[i]? = token[i]?) :
    levelOf other = levelOf token := by
  rw [levelOf, levelOf, Bytes.extract_congr fun k _ hk => h k hk]

theorem expiryOf_congr {token other : Bytes} (h : ∀ i, 3 ≤ i → i < 19 → other[i]? = token[i]?) :
    expiryOf other = expiryOf token := by
  rw [expiryOf, expiryOf, Bytes.extract_congr h]

theorem wellFormed_congr {token other : Bytes} (h : WellFormed token)
    (hsame : ∀ i, ¬InClaim i → other[i]? = token[i]?) :
    (WellFormed other ↔ Hex.IsLower (other.extract 0 2) ∧ Hex.IsLower (other.extract 3 19)) ∧
      tagOf other = tagOf token := by
  have htag : other.extract 20 84 = token.extract 20 84 :=
    Bytes.extract_congr fun k hk _ => hsame k (by unfold InClaim; omega)
  -- The last place of a token is filled and the next one is empty, here as there.
  have hlen : other.length = 84 := by
    have hlast : 83 < token.length := by rw [h.length]; decide
    have hin : other[83]? = some token[83] :=
      (hsame 83 (by unfold InClaim; omega)).trans (List.getElem?_eq_getElem _)
    have hout : other[84]? = none := (hsame 84 (by unfold InClaim; omega)).trans
      (List.getElem?_eq_none (Nat.le_of_eq h.length))
    have hlt := (List.getElem?_eq_some_iff.mp hin).1
    have hle := List.getElem?_eq_none_iff.mp hout
    omega
  refine ⟨⟨fun h' => ⟨h'.level, h'.expiry⟩, fun h' => ?_⟩, by rw [tagOf, tagOf, htag]⟩
  exact ⟨hlen, h'.1, (hsame 2 (by unfold InClaim; omega)).trans h.first, h'.2,
    (hsame 19 (by unfold InClaim; omega)).trans h.second, htag ▸ h.tag⟩

theorem ok_changed_iff {key : Bytes} {now : Instant} (now' : Instant) {id : Identity}
    {token other : Bytes} (h : firstUnmet (requirements key now id token) = .ok ())
    (hne : other ≠ token) (hsame : ∀ i, ¬InClaim i → other[i]? = token[i]?) :
    firstUnmet (requirements key now' id other) = .ok () ↔
      (Hex.IsLower (other.extract 0 2) ∧ Hex.IsLower (other.extract 3 19)) ∧
        id.level ≤ levelOf other ∧
        max 0 (now'.toNanos / (billion : Int)) ≤ LittleEndian.decode (expiryOf other) ∧
        Hmac.Collision key (messageOf id token) (messageOf id other) := by
  obtain ⟨hform, -, -, htag⟩ := (ok_iff key now id token).mp h
  obtain ⟨hfields, hsum⟩ := wellFormed_congr hform hsame
  constructor
  · intro h'
    obtain ⟨hform', hlevel, htime, htag'⟩ := (ok_iff key now' id other).mp h'
    -- With one message the two texts would be one text.
    have hm : messageOf id token ≠ messageOf id other := fun hm => hne (eq_of_ok h h' hm).symm
    exact ⟨hfields.mp hform', hlevel, htime, hm, htag.symm.trans (hsum.symm.trans htag')⟩
  · rintro ⟨hdigits, hlevel, htime, hcollision⟩
    exact (ok_iff key now' id other).mpr ⟨hfields.mpr hdigits, hlevel, htime,
      (hsum.trans htag).trans hcollision.tag_eq⟩

end Token

namespace Engine.Session

def Accepts (s : Session) (id : Identity) (token : Bytes) : Prop :=
  (s.apply (.verify id token)).1 = .verified (.ok ())

def Refuses (s : Session) (id : Identity) (token : Bytes) : Prop :=
  ∃ r, (s.apply (.verify id token)).1 = .verified (.error r)

namespace Sound
variable {secret : Secret} {levels : LevelTable} {s : Session}

theorem accepts_iff (h : s.Sound secret levels) (id : Identity) (token : Bytes) :
    s.Accepts id token ↔
      firstUnmet (Token.requirements secret.bytes s.clock.now id token) = .ok () := by
  rw [Accepts, h.reply_verify, Reply.verified.injEq]

theorem refuses_of_not (h : s.Sound secret levels) {id : Identity} {token : Bytes}
    (hn : ¬s.Accepts id token) : s.Refuses id token := by
  rw [h.accepts_iff] at hn
  rw [Refuses, h.reply_verify]
  cases hfirst : firstUnmet (Token.requirements secret.bytes s.clock.now id token) with
  | error r => exact ⟨r, rfl⟩
  | ok u => exact absurd hfirst hn

end Sound

/-- **A good token cannot be changed into another**, at any time, but in its level and its expiry
and by a collision. -/
theorem one_spelling (secret : Secret) (levels levels' : LevelTable) (clock clock' : Clock)
    (calls calls' : List Op) (id : Identity) (token : Bytes)
    (hgood : (reached secret levels clock calls).Accepts id token) :
    Token.tagOf token = Hmac.tag secret.bytes (Token.messageOf id token) ∧
    ∀ other : Bytes, other ≠ token →
      ((reached secret levels' clock' calls').Accepts id other →
        (Token.levelOf other, Token.expiryOf other) ≠ (Token.levelOf token, Token.expiryOf token) ∧
        Token.messageOf id other ≠ Token.messageOf id token ∧
        Token.tagOf other = Hmac.tag secret.bytes (Token.messageOf id other)) ∧
      ((∀ i, ¬Token.InSeal i → other[i]? = token[i]?) →
        (reached secret levels' clock' calls').Refuses id other) ∧
      (other.map Bytes.lower = token.map Bytes.lower →
        (reached secret levels' clock' calls').Refuses id other) ∧
      (other.length ≠ token.length → (reached secret levels' clock' calls').Refuses id other) ∧
      ((∀ i, ¬Token.InClaim i → other[i]? = token[i]?) →
        ((reached secret levels' clock' calls').Accepts id other ↔
          (Hex.IsLower (other.extract 0 2) ∧ Hex.IsLower (other.extract 3 19)) ∧
          id.level ≤ Token.levelOf other ∧
          max 0 ((reached secret levels' clock' calls').clock.now.toNanos / (billion : Int)) ≤
            LittleEndian.decode (Token.expiryOf other) ∧
          Hmac.Collision secret.bytes (Token.messageOf id token) (Token.messageOf id other))) := by
  have hgood' := ((sound_reached secret levels clock calls).accepts_iff id token).mp hgood
  generalize (reached secret levels clock calls).clock.now = now at hgood'
  have hsession := sound_reached secret levels' clock' calls'
  generalize reached secret levels' clock' calls' = session at hsession ⊢
  obtain ⟨hform, -, -, htag⟩ := (Token.ok_iff secret.bytes now id token).mp hgood'
  refine ⟨htag, fun other hne => ?_⟩
  have hmessage : session.Accepts id other →
      Token.messageOf id other ≠ Token.messageOf id token := fun hother hm =>
    hne (Token.eq_of_ok ((hsession.accepts_iff id other).mp hother) hgood' hm)
  have hright : session.Accepts id other → Token.WellFormed other ∧
      Token.tagOf other = Hmac.tag secret.bytes (Token.messageOf id other) := by
    intro hother
    obtain ⟨hform', -, -, htag'⟩ :=
      (Token.ok_iff _ _ _ _).mp ((hsession.accepts_iff id other).mp hother)
    exact ⟨hform', htag'⟩
  refine ⟨?both, ?sealed, ?letters, ?size, ?claim⟩
  case both =>
    intro hother
    refine ⟨fun hpair => ?_, hmessage hother, (hright hother).2⟩
    obtain ⟨hlevel, hexpiry⟩ := Prod.mk.inj hpair
    exact hmessage hother (Token.messageOf_congr id hlevel hexpiry)
  case sealed =>
    intro hsame
    refine hsession.refuses_of_not fun hother =>
      hmessage hother (Token.messageOf_congr id ?_ ?_)
    · exact Token.levelOf_congr fun i hi => hsame i (by unfold Token.InSeal; omega)
    · exact Token.expiryOf_congr fun i hi hi' => hsame i (by unfold Token.InSeal; omega)
  case letters =>
    intro hletters
    exact hsession.refuses_of_not fun hother =>
      hne (hform.eq_of_map_lower (hright hother).1 hletters)
  case size =>
    intro hsize
    exact hsession.refuses_of_not fun hother =>
      hsize ((hright hother).1.length.trans hform.length.symm)
  case claim =>
    intro hsame
    rw [hsession.accepts_iff]
    exact Token.ok_changed_iff session.clock.now hgood' hne hsame

def Sample.token : Bytes :=
  Token.signed Sample.secret.bytes Sample.identity (Sample.clock.expiresAt Sample.hour)

/-- A token whose level is raised by one digit is refused: there is no collision. -/
theorem raised_level_refused :
    (reached Sample.secret Sample.levels Sample.clock []).Accepts Sample.identity Sample.token ∧
    Sample.token.set 1 50 ≠ Sample.token ∧
    ¬(reached Sample.secret Sample.levels Sample.clock []).Accepts Sample.identity
      (Sample.token.set 1 50) := by
  have hgood : (reached Sample.secret Sample.levels Sample.clock []).Accepts Sample.identity
      Sample.token := by
    rw [(sound_reached Sample.secret Sample.levels Sample.clock []).accepts_iff]
    exact Token.firstUnmet_signed Sample.secret.bytes Sample.clock.now Sample.identity 1
      (Clock.expiresAt_lt Sample.clock Sample.hour)
  have hne : Sample.token.set 1 50 ≠ Sample.token := by
    intro heq
    have hdigit : (Sample.token.set 1 50)[1]? = Sample.token[1]? := by rw [heq]
    revert hdigit
    decide
  have hsame : ∀ i, ¬Token.InClaim i → (Sample.token.set 1 50)[i]? = Sample.token[i]? := by
    intro i hi
    exact List.getElem?_set_ne (by rintro rfl; exact hi (.inl (by decide)))
  obtain ⟨-, -, -, -, hclaim⟩ := (one_spelling Sample.secret Sample.levels Sample.levels Sample.clock
    Sample.clock [] [] Sample.identity Sample.token hgood).2 _ hne
  refine ⟨hgood, hne, fun hother => ?_⟩
  have htag := ((hclaim hsame).mp hother).2.2.2.tag_eq
  revert htag
  decide +kernel

end Engine.Session
end Passage
