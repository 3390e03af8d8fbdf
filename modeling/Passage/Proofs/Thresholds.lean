import Passage.Proofs.Malleability

/- What a token is worth for a host and an address, told for all levels and all times.

   The level and the expiry that a check compares are the token's own, and its tag is
   looked at last. Still the tag decides: a token that is `Sealed`, of the form of a token
   and with the tag of what it shows, is told by two numbers what it is told anywhere, its
   level and its expiry (`firstUnmet_of_sealed`), and any other token is good nowhere
   (`Sealed.of_ok`).

   So what was good is good for a lower level and at an earlier time, and what has expired
   stays expired. The last holds without a seal: behind the expiry a check does not come to
   the tag (`expired_iff`). -/
namespace Passage

theorem Instant.second_mono {t u : Instant} (h : t.toNanos ≤ u.toNanos) :
    max 0 (t.toNanos / (billion : Int)) ≤ max 0 (u.toNanos / (billion : Int)) := by
  have hdiv : t.toNanos / (billion : Int) ≤ u.toNanos / (billion : Int) :=
    Int.ediv_le_ediv (by decide) h
  omega

namespace Token

/-- The token has the form of a token and the tag of what it shows, for a host and an address. -/
structure Sealed (key : Bytes) (address : Address) (host token : Bytes) : Prop where
  form : WellFormed token
  tag_eq : tagOf token = Hmac.tag key (message ⟨address, host, levelOf token⟩ (expiryOf token))

/-- What a token is told that is good up to a level and up to a second. -/
structure Bounded (granted : UInt8) (expiry : Nat) (asked : UInt8) (now : Instant)
    (outcome : Outcome) : Prop where
  ok_iff : outcome = .ok () ↔ asked ≤ granted ∧ max 0 (now.toNanos / (billion : Int)) ≤ expiry
  tooLow_iff : outcome = .error .levelTooLow ↔ granted < asked
  expired_iff : outcome = .error .expired ↔
    asked ≤ granted ∧ (expiry : Int) < max 0 (now.toNanos / (billion : Int))

theorem bounded_of_two (granted : UInt8) (expiry : Nat) (asked : UInt8) (now : Instant) :
    Bounded granted expiry asked now
      (firstUnmet [⟨asked ≤ granted, .levelTooLow⟩,
        ⟨max 0 (now.toNanos / (billion : Int)) ≤ expiry, .expired⟩]) where
  ok_iff := by simp only [firstUnmet_cons_ok_iff, firstUnmet_nil_ok, and_true]
  tooLow_iff := by simp [firstUnmet_cons_error_iff, UInt8.not_le]
  expired_iff := by
    simp only [firstUnmet_cons_error_iff, firstUnmet_nil_ok, reduceCtorEq, and_false, and_true,
      false_or, or_false, Int.not_le]

variable {key : Bytes} {now : Instant} {address : Address} {host token : Bytes} {level : UInt8}

/-- A sealed token is told what its level and its expiry allow. -/
theorem firstUnmet_of_sealed (h : Sealed key address host token) (now : Instant) (level : UInt8) :
    firstUnmet (requirements key now ⟨address, host, level⟩ token) =
      firstUnmet [⟨level ≤ levelOf token, .levelTooLow⟩,
        ⟨max 0 (now.toNanos / (billion : Int)) ≤ LittleEndian.decode (expiryOf token), .expired⟩] := by
  have htag : (tagOf token).length = 32 := by rw [h.tag_eq, Hmac.length_tag]
  have hmessage : host ++ address.octets ++ [levelOf token] ++ expiryOf token =
      message ⟨address, host, levelOf token⟩ (expiryOf token) := rfl
  -- The token is the text of its own parts, of which only the level and the expiry can fail.
  calc firstUnmet (requirements key now ⟨address, host, level⟩ token)
      = firstUnmet (requirements key now ⟨address, host, level⟩
          (text (levelOf token) (expiryOf token) (tagOf token))) := by rw [← h.form.eq_text]
    _ = _ := by
      rw [firstUnmet_text key now _ _ h.form.length_expiryOf htag, hmessage, ← h.tag_eq]
      simp only [firstUnmet_cons, if_true]

theorem Sealed.of_ok (h : firstUnmet (requirements key now ⟨address, host, level⟩ token) = .ok ()) :
    Sealed key address host token := by
  obtain ⟨hform, -, -, htag⟩ := (ok_iff key now ⟨address, host, level⟩ token).mp h
  exact ⟨hform, htag⟩

theorem expired_iff : firstUnmet (requirements key now ⟨address, host, level⟩ token) =
      .error .expired ↔
    (token.length = 84 ∧ Hex.IsLower (token.extract 0 2) ∧ token[2]? = some separator ∧
        Hex.IsLower (token.extract 3 19)) ∧
      level ≤ levelOf token ∧
      (LittleEndian.decode (expiryOf token) : Int) < max 0 (now.toNanos / (billion : Int)) := by
  simp only [requirements, firstUnmet_cons_error_iff, reduceCtorEq, and_false, false_or, and_true,
    firstUnmet_nil_ok, or_false, Int.not_le]
  constructor
  · rintro ⟨-, hlength, hdigits, hlevel, hfirst, hexpiry, htime⟩
    exact ⟨⟨hlength, hdigits, hfirst, hexpiry⟩, hlevel, htime⟩
  · rintro ⟨⟨hlength, hdigits, hfirst, hexpiry⟩, hlevel, htime⟩
    exact ⟨List.ne_nil_of_length_pos (by rw [hlength]; decide), hlength, hdigits, hlevel, hfirst,
      hexpiry, htime⟩

end Token

namespace Engine.Session

/-- **A token is good up to a level and up to a second, or nowhere.** Its seal tells which, the
numbers are those that it shows, and no other number of the check or the session counts. -/
theorem bounded_or_worthless (secret : Secret) (address : Address) (host token : Bytes) :
    ((¬Token.Sealed secret.bytes address host token ∧
        ∀ s : Session, s.Keyed secret → ∀ level, s.Refuses ⟨address, host, level⟩ token) ∨
      (Token.Sealed secret.bytes address host token ∧
        ∃ granted expiry, granted = Token.levelOf token ∧
          expiry = LittleEndian.decode (Token.expiryOf token) ∧
          ∀ s : Session, s.Keyed secret → ∀ level, ∃ outcome,
            (s.apply (.verify ⟨address, host, level⟩ token)).1 = .verified outcome ∧
            Token.Bounded granted expiry level s.clock.now outcome)) ∧
    (∀ s s' : Session, s.Keyed secret → s'.Keyed secret → ∀ level level', level' ≤ level →
      (s'.clock.now.toNanos ≤ s.clock.now.toNanos →
        s.Accepts ⟨address, host, level⟩ token → s'.Accepts ⟨address, host, level'⟩ token) ∧
      (s.clock.now.toNanos ≤ s'.clock.now.toNanos →
        (s.apply (.verify ⟨address, host, level⟩ token)).1 = .verified (.error .expired) →
        (s'.apply (.verify ⟨address, host, level'⟩ token)).1 = .verified (.error .expired))) := by
  refine ⟨?kinds, fun s s' hs hs' level level' hlevel => ?_⟩
  case kinds =>
    by_cases hseal : Token.Sealed secret.bytes address host token
    · refine .inr ⟨hseal, _, _, rfl, rfl, fun s hs level => ?_⟩
      obtain ⟨levels, hsound⟩ := hs.sound
      refine ⟨_, hsound.reply_verify _ token, ?_⟩
      rw [Token.firstUnmet_of_sealed hseal]
      exact Token.bounded_of_two ..
    · refine .inl ⟨hseal, fun s hs level => ?_⟩
      obtain ⟨levels, hsound⟩ := hs.sound
      refine hsound.refuses_of_not fun haccepted => ?_
      exact hseal (Token.Sealed.of_ok ((hsound.accepts_iff _ token).mp haccepted))
  obtain ⟨levels, hsound⟩ := hs.sound
  obtain ⟨levels', hsound'⟩ := hs'.sound
  constructor
  · intro htime haccepted
    rw [hsound.accepts_iff] at haccepted
    have hseal := Token.Sealed.of_ok haccepted
    have hsecond := Instant.second_mono htime
    rw [Token.firstUnmet_of_sealed hseal, (Token.bounded_of_two ..).ok_iff] at haccepted
    rw [hsound'.accepts_iff, Token.firstUnmet_of_sealed hseal, (Token.bounded_of_two ..).ok_iff]
    exact ⟨UInt8.le_trans hlevel haccepted.1, Int.le_trans hsecond haccepted.2⟩
  · intro htime hexpired
    have hsecond := Instant.second_mono htime
    rw [hsound.reply_verify, Reply.verified.injEq, Token.expired_iff] at hexpired
    obtain ⟨hform, hgranted, hpassed⟩ := hexpired
    rw [hsound'.reply_verify, Reply.verified.injEq, Token.expired_iff]
    exact ⟨hform, UInt8.le_trans hlevel hgranted, Int.lt_of_lt_of_le hpassed hsecond⟩

end Engine.Session
end Passage
