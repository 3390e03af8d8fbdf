import Passage.Proofs.Sessions
import Passage.Proofs.TokenText

/- How long an issued token counts, and for which levels.

   A token is issued in one session and shown in another of the same secret, with a
   table, calls and a clock of its own. What it is told is a matter of two clock
   readings, the lifetime and two levels (`Lives`):

   1. at a higher level than its own it is too low, at every time;
   2. otherwise it is good up to the exact end of its lifetime, to the nanosecond, and
      expired from one second behind that end on, or behind the epoch for a lifetime
      that ends before it;
   3. within that second the expiry decides that was computed when it was issued.

   Lifetimes that end past the calendar are no exception: no clock shows an instant
   behind their end. -/
namespace Passage

/-- What a token of level `granted` that was issued for `lifetime` is told where `asked` is
requested. -/
structure Token.Lives (issued : Clock) (lifetime : Duration) (granted : UInt8) (shown : Clock)
    (asked : UInt8) (outcome : Outcome) : Prop where
  tooLow : granted < asked → outcome = .error .levelTooLow
  good : asked ≤ granted →
    shown.now.toNanos ≤ issued.now.toNanos + lifetime.toNanos → outcome = .ok ()
  stale : asked ≤ granted →
    max (issued.now.toNanos + lifetime.toNanos) 0 + (billion : Int) ≤ shown.now.toNanos →
      outcome = .error .expired
  ok_iff : asked ≤ granted → (outcome = .ok () ↔
    max 0 (shown.now.toNanos / (billion : Int)) ≤ issued.expiresAt lifetime)
  expired_iff : asked ≤ granted → (outcome = .error .expired ↔
    issued.expiresAt lifetime < max 0 (shown.now.toNanos / (billion : Int)))

/-- The expiry that is compared says all of it. -/
theorem Token.lives_of_expiry (issued : Clock) (lifetime : Duration) (granted : UInt8)
    (shown : Clock) (asked : UInt8) :
    Lives issued lifetime granted shown asked
      (if asked ≤ granted then
        if max 0 (shown.now.toNanos / (billion : Int)) ≤ issued.expiresAt lifetime then .ok ()
        else .error .expired
      else .error .levelTooLow) where
  tooLow h := by rw [if_neg (UInt8.not_le.mpr h)]
  good h ht := by rw [if_pos h, if_pos (Clock.le_expiresAt ht)]
  stale h ht := by
    have hlt := Clock.expiresAt_lt_of_le ht
    rw [if_pos h, if_neg (Int.not_le.mpr hlt)]
  ok_iff h := by
    rw [if_pos h]
    split
    · next hle => exact ⟨fun _ => hle, fun _ => rfl⟩
    · next hle => exact ⟨fun he => (nomatch he), fun ht => absurd ht hle⟩
  expired_iff h := by
    rw [if_pos h, ← Int.not_le]
    split
    · next hle => exact ⟨fun he => (nomatch he), fun ht => absurd hle ht⟩
    · next hle => exact ⟨fun _ => hle, fun _ => rfl⟩

namespace Engine.Session

/-- **An issued token counts for its lifetime**, at its level and below, in every session of the
secret. -/
theorem counts_for_lifetime (secret : Secret) (levels : LevelTable) (clock : Clock)
    (calls : List Op) (id : Identity) (lifetime : Duration) (capacity : Nat) (ops : List Buffer.Op)
    (hroom : Token.size ≤ ((Buffer.ofCapacity capacity).run ops).room) :
    ∃ token out,
      ((reached secret levels clock calls).apply
        (.issue id lifetime ((Buffer.ofCapacity capacity).run ops))).1 = .issued (.ok ()) out ∧
      out.readable = ((Buffer.ofCapacity capacity).run ops).readable ++ token ∧
      token.length = Token.size ∧
      ∀ (levels' : LevelTable) (clock' : Clock) (calls' : List Op) (level : UInt8),
        ∃ outcome,
          ((reached secret levels' clock' calls').apply (.verify { id with level } token)).1 =
            .verified outcome ∧
          Token.Lives (reached secret levels clock calls).clock lifetime id.level
            (reached secret levels' clock' calls').clock level outcome := by
  have hsound := sound_reached secret levels clock calls
  generalize reached secret levels clock calls = issuer at hsound ⊢
  have hlen := Token.length_signed secret.bytes id (issuer.clock.expiresAt lifetime)
  have hfit : (Token.fields secret.bytes id (issuer.clock.expiresAt lifetime)).flatten.length ≤
      ((Buffer.ofCapacity capacity).run ops).room := by
    rw [← Token.signed, hlen]
    exact hroom
  obtain ⟨out, hwrite, hread⟩ := (Buffer.sound_run capacity ops).writeAll_of_room hfit
  have hreply := hsound.reply_issue id lifetime ((Buffer.ofCapacity capacity).run ops)
  rw [hwrite] at hreply
  refine ⟨Token.signed secret.bytes id (issuer.clock.expiresAt lifetime), out, hreply, hread, hlen, ?_⟩
  intro levels' clock' calls' level
  -- Nothing of the issuing session is left in the token but the second it expires at.
  have hverify := (sound_reached secret levels' clock' calls').reply_verify { id with level }
    (Token.signed secret.bytes id (issuer.clock.expiresAt lifetime))
  rw [Token.firstUnmet_signed _ _ _ _ (Clock.expiresAt_lt issuer.clock lifetime)] at hverify
  exact ⟨_, hverify, Token.lives_of_expiry ..⟩

/-- A new buffer of a token's size has room, and the token in it is good where it was issued. -/
theorem good_when_issued : ∃ token out,
    ((reached Sample.secret Sample.levels Sample.clock []).apply
      (.issue Sample.identity Sample.hour (.ofCapacity Token.size))).1 = .issued (.ok ()) out ∧
    out.readable = token ∧
    ((reached Sample.secret Sample.levels Sample.clock []).apply
      (.verify Sample.identity token)).1 = .verified (.ok ()) := by
  obtain ⟨token, out, hissue, hread, -, hcounts⟩ :=
    counts_for_lifetime Sample.secret Sample.levels Sample.clock [] Sample.identity Sample.hour
      Token.size [] (by decide)
  obtain ⟨outcome, hverify, hlives⟩ := hcounts Sample.levels Sample.clock [] 1
  rw [hlives.good (by decide) (by decide)] at hverify
  exact ⟨token, out, hissue, hread, hverify⟩

end Engine.Session
end Passage
