import Mathlib.Algebra.Order.Floor.Div
import Passage.Proofs.Exchange
import Passage.Proofs.Malleability

/- How long the work on one challenge can be cashed in.

   Nothing records which solutions have come back, so a solution buys a token each time it
   is shown. The challenge's own expiry bounds what that is worth.

   1. A solution is taken up to the second that its nonce spells, so a token that it buys
      is issued before the next second begins (`Instant.lt_of_second_le`).
   2. A token that is issued before a second begins expires at most the lifetime, rounded
      up to whole seconds, behind the second before (`Clock.expiresAt_le_of_lt`). The
      lifetime must not lead past the calendar, where an expiry is endless.
   3. A token is refused behind the expiry that it shows, whoever shows it
      (`Sound.refuses_behind_expiry`). -/
namespace Passage

theorem Instant.lt_of_second_le {t : Instant} {second : Nat}
    (h : max 0 (t.toNanos / (billion : Int)) ≤ second) : t.toNanos < (second + 1) * (billion : Int) := by
  unfold billion at h ⊢
  omega

/-- What is made before the end of a second expires at most its lifetime, in whole seconds, behind
that second. -/
theorem Clock.expiresAt_le_of_lt {c : Clock} {lifetime : Duration} {second : Nat}
    (h : c.now.toNanos < (second + 1) * (billion : Int))
    (hin : (second + 1) * (billion : Int) + lifetime.toNanos ≤ Instant.last.toNanos) :
    c.expiresAt lifetime ≤ second + lifetime.toNanos ⌈/⌉ billion := by
  have hceil : lifetime.toNanos ≤ billion * (lifetime.toNanos ⌈/⌉ billion) :=
    le_smul_ceilDiv (show 0 < billion by decide)
  generalize lifetime.toNanos ⌈/⌉ billion = whole at hceil ⊢
  have hexact := Clock.expiresAt_eq c lifetime
  rw [if_pos (by omega)] at hexact
  -- The sum stays below the end of the second behind which `whole` seconds have passed.
  have hsum : (c.now.toNanos + lifetime.toNanos) / (billion : Int) < second + 1 + whole := by
    refine Int.ediv_lt_of_lt_mul (by decide) ?_
    unfold billion at h hceil ⊢
    omega
  omega

theorem Token.decode_expiryOf_signed (key : Bytes) (id : Identity) {expires : Nat}
    (h : expires < wordLimit) :
    LittleEndian.decode (expiryOf (signed key id expires)) = expires := by
  rw [expiryOf, signed, fields, ← text, extract_expiry_text _ (LittleEndian.length_encode ..),
    Hex.bytes_encode]
  exact LittleEndian.decode_encode h

namespace Engine.Session

namespace Sound
variable {secret : Secret} {levels : LevelTable} {s : Session}

/-- Behind the expiry that a token shows nobody is let through with it. -/
theorem refuses_behind_expiry (h : s.Sound secret levels) (id : Identity) {token : Bytes}
    {expires : Nat} (hshown : LittleEndian.decode (Token.expiryOf token) ≤ expires)
    (hpast : (expires + 1) * (billion : Int) ≤ s.clock.now.toNanos) : s.Refuses id token := by
  refine h.refuses_of_not fun haccepted => ?_
  obtain ⟨-, -, htime, -⟩ := (Token.ok_iff ..).mp ((h.accepts_iff id token).mp haccepted)
  have hlt := Instant.lt_of_second_le htime
  unfold billion at hpast hlt
  omega

theorem held_of_ran (h : s.Sound secret levels) {slot : Nat} {request : Request} {outcome : Outcome}
    {response : Response} (hran : (s.apply (.run slot request)).1 = .ran outcome response) :
    (s.lending.object? slot).isSome := by
  rw [h.reply_run] at hran
  by_cases hheld : (s.lending.object? slot).isSome
  · exact hheld
  · rw [if_neg hheld] at hran
    cases hran

end Sound

/-- **The work on one challenge has an end.** However often a solution comes back and at whatever
time, the second of its challenge is not over when it is taken, and the token that it buys shows an
expiry at most a lifetime, in whole seconds, behind that second: then it is refused everywhere. -/
theorem bought_until (secret : Secret) (levels : LevelTable) (clock : Clock) (calls : List Op)
    (slot : Nat) (id : Identity) (body : Bytes) (expires : Nat) (response : Response)
    (hpow : (levels.entry id.level).policy = .proofOfWork) (hlt : expires < wordLimit)
    (hnonce : body.extract 0 16 = Challenge.nonce expires)
    (htaken : ((reached secret levels clock calls).apply (.run slot ⟨.post, body, id⟩)).1 =
      .ran (.ok ()) response) :
    max 0 ((reached secret levels clock calls).clock.now.toNanos / (billion : Int)) ≤ expires ∧
      ((expires + 1) * (billion : Int) + (levels.entry id.level).lifetime.toNanos ≤
          Instant.last.toNanos →
        LittleEndian.decode (Token.expiryOf response.token.readable) ≤
            expires + (levels.entry id.level).lifetime.toNanos ⌈/⌉ billion ∧
          ∀ s : Session, s.Keyed secret →
            ((expires + (levels.entry id.level).lifetime.toNanos ⌈/⌉ billion : Nat) + 1) *
              (billion : Int) ≤ s.clock.now.toNanos →
            ∀ asker, s.Refuses asker response.token.readable) := by
  have hsound := sound_reached secret levels clock calls
  generalize reached secret levels clock calls = taker at htaken hsound ⊢
  obtain ⟨response', hreply, hgranted⟩ :=
    hsound.reply_solution (hsound.held_of_ran htaken) hpow body
  rw [htaken, Reply.ran.injEq] at hreply
  obtain ⟨hok, rfl⟩ := hreply
  have htoken := (hgranted hok.symm).2
  have htime : max 0 (taker.clock.now.toNanos / (billion : Int)) ≤ expires := by
    have hmet := hok.symm
    simp only [Challenge.requirements, firstUnmet_cons_ok_iff, hnonce,
      Challenge.decode_nonce hlt] at hmet
    exact hmet.2.2.2.2.1
  refine ⟨htime, fun hin => ?_⟩
  have hshown : LittleEndian.decode (Token.expiryOf response.token.readable) ≤
      expires + (levels.entry id.level).lifetime.toNanos ⌈/⌉ billion := by
    rw [htoken, Token.decode_expiryOf_signed _ _ (Clock.expiresAt_lt ..)]
    exact Clock.expiresAt_le_of_lt (Instant.lt_of_second_le htime) hin
  refine ⟨hshown, fun s hs hpast asker => ?_⟩
  obtain ⟨levels', hsound'⟩ := hs.sound
  exact hsound'.refuses_behind_expiry asker hshown hpast

namespace Sample

def longHour : Duration := { hour with nanos := 500000000, nanos_lt := by decide }

/-- One level, which asks for work and counts for a long hour. -/
def longLevels : LevelTable := ⟨[.ofParts longHour .proofOfWork], List.cons_ne_nil _ _, by decide⟩

end Sample

/-- The bound is met: a solution that comes in the last nanosecond of its challenge's second buys a
token until 3601 seconds behind it, and no longer. -/
theorem bought_at_deadline : ∃ response,
    ((reached Sample.secret Sample.longLevels Sample.deadline [.acquire 0]).apply
      (.run 0 ⟨.post, Sample.solution, Sample.identity⟩)).1 = .ran (.ok ()) response ∧
    LittleEndian.decode (Token.expiryOf response.token.readable) = 1700003600 + 3601 ∧
    (reached Sample.secret Sample.levels ⟨⟨1700007202, 0, by decide, by decide, by decide⟩⟩ []).Refuses
      Sample.identity response.token.readable := by
  have hsound := sound_reached Sample.secret Sample.longLevels Sample.deadline [.acquire 0]
  have hheld : ((reached Sample.secret Sample.longLevels Sample.deadline [.acquire 0]).lending.object?
      0).isSome := rfl
  have hpow : (Sample.longLevels.entry Sample.identity.level).policy = .proofOfWork := rfl
  obtain ⟨response, hreply, hgranted⟩ := hsound.reply_solution hheld hpow Sample.solution
  have hmet : firstUnmet (Challenge.requirements Sample.secret.bytes Sample.deadline.now
      Sample.identity Sample.solution) = .ok () := (firstUnmet_ok_iff _).mpr (by decide +kernel)
  have htaken := hreply.trans (congrArg (Reply.ran · response) hmet)
  obtain ⟨-, hbound⟩ := bought_until Sample.secret Sample.longLevels Sample.deadline [.acquire 0] 0
    Sample.identity Sample.solution 1700003600 response hpow (by decide) (by decide +kernel) htaken
  obtain ⟨hshown, hrefused⟩ := hbound (by decide)
  refine ⟨response, htaken, ?_, ?_⟩
  · rw [(hgranted hmet).2, Token.decode_expiryOf_signed _ _ (Clock.expiresAt_lt ..)]
    decide
  · exact hrefused _ ⟨_, _, _, rfl⟩ (by decide) _

end Engine.Session
end Passage
