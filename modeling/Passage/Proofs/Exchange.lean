import Passage.Proofs.ChallengeText
import Passage.Proofs.Gates
import Passage.Proofs.Messages
import Passage.Proofs.TokenText

/- From a challenge to a token.

   A challenge is handed out in one session and its solution comes back in another of
   the same secret and table, with calls and a clock of its own. No state links the two:
   the nonce tells the second until which the challenge counts, and the proof is made
   again from the nonce and the identity that asks.

   1. A sound session tells the challenge of an identity (`Sound.offers`), and a solution
      is answered with a token exactly if its requirements are met
      (`Sound.reply_solution`).
   2. Of a solution with the nonce and the proof of a challenge for the same host, the
      same address octets and the same level only the number, the work and the time can
      fail (`Challenge.ok_handed_iff`).
   3. The token is the one that is issued to the identity at that time, and it is good
      at once (`Sound.exchanges`). -/
namespace Passage

namespace Challenge

/-- The number is a number, the work for the nonce is done with it, and the second that the nonce
tells is not over. -/
def Solves (nonce number : Bytes) (expires : Nat) (now : Instant) : Prop :=
  (1 ≤ number.length ∧ number.length ≤ 20 ∧ number.all Bytes.isDigit = true) ∧
    (Sha256.digest (nonce ++ number)).take 2 = [0, 0] ∧
    max 0 (now.toNanos / (billion : Int)) ≤ expires

instance (nonce number : Bytes) (expires : Nat) (now : Instant) :
    Decidable (Solves nonce number expires now) :=
  inferInstanceAs (Decidable (_ ∧ _ ∧ _))

/-- Handed in by whoever is written alike, a solution is good exactly if it solves its challenge. -/
theorem ok_handed_iff (key : Bytes) (now : Instant) {a b : Identity} (hab : b.Alike a)
    {expires : Nat} (h : expires < wordLimit) (number : Bytes) :
    firstUnmet (requirements key now b (handed key a expires number).text) = .ok () ↔
      Solves (nonce expires) number expires now := by
  have hmessage : message a (nonce expires) = message b (nonce expires) :=
    (Identity.material_append_eq_iff a b rfl).mpr
      ⟨hab.host.symm, hab.octets.symm, hab.level.symm, rfl⟩
  have hpos : number ≠ [] ↔ 1 ≤ number.length := List.length_pos_iff.symm
  rw [firstUnmet_handed key now a b h, hmessage, Solves]
  simp only [firstUnmet_cons_ok_iff, firstUnmet_nil_ok, and_true, hpos]
  constructor
  · rintro ⟨hone, -, htime, hlen, hdigits, hwork⟩
    exact ⟨⟨hone, hlen, hdigits⟩, hwork, htime⟩
  · rintro ⟨⟨hone, hlen, hdigits⟩, hwork, htime⟩
    exact ⟨hone, trivial, htime, hlen, hdigits, hwork⟩

end Challenge

namespace Engine.Session

/-- Whoever asks for a challenge is shown a nonce, which tells until when it counts at this level,
and a proof. There is no token yet. -/
structure Offers (s : Session) (slot : Nat) (id : Identity) (body : Bytes) (level : Level)
    (expires : Nat) (nonce proof : Bytes) : Prop where
  answer : ∃ response, (s.apply (.run slot ⟨.get, body, id⟩)).1 = .ran (.ok ()) response ∧
    response.token.readable = [] ∧
    response.body.readable = Challenge.shown level.countdown nonce proof
  expires_eq : expires = s.clock.expiresAt level.lifetime
  nonce_eq : nonce = Hex.encode (LittleEndian.encode 8 expires)
  nonce_digits : nonce.length = 16 ∧ Hex.IsLower nonce
  proof_digits : proof.length = 64 ∧ Hex.IsLower proof

/-- The token is the one that is issued to the identity now. -/
def Issues (s : Session) (id : Identity) (lifetime : Duration) (token : Bytes) : Prop :=
  ∃ out, (s.apply (.issue id lifetime (.ofCapacity Token.size))).1 = .issued (.ok ()) out ∧
    out.readable = token

/-- A solution that is handed in is answered with the token that would be issued, which is good at
once, exactly if it solves its challenge. -/
def Exchanges (s : Session) (slot : Nat) (id : Identity) (lifetime : Duration) (expires : Nat)
    (solution : Challenge.Solution) : Prop :=
  ∃ outcome response,
    (s.apply (.run slot ⟨.post, solution.text, id⟩)).1 = .ran outcome response ∧
    (outcome = .ok () ↔
      Challenge.Solves solution.nonce solution.number expires s.clock.now) ∧
    (outcome = .ok () → response.body.readable = [] ∧
      s.Issues id lifetime response.token.readable ∧
      ((s.apply (.run slot ⟨.post, solution.text, id⟩)).2.apply
        (.verify id response.token.readable)).1 = .verified (.ok ()))

namespace Sound
variable {secret : Secret} {levels : LevelTable} {s : Session}

theorem reply_challenge (h : s.Sound secret levels) {slot : Nat} {id : Identity}
    (hheld : (s.lending.object? slot).isSome)
    (hpow : (levels.entry id.level).policy = .proofOfWork) (body : Bytes) :
    (s.apply (.run slot ⟨.get, body, id⟩)).1 = .ran (.ok ())
      (.wrote (Challenge.offered secret.bytes id (levels.entry id.level).countdown
        (s.clock.expiresAt (levels.entry id.level).lifetime)) []) := by
  have hanswer : answer secret levels s.clock ⟨.get, body, id⟩ =
      (.ok (), .wrote (Challenge.offered secret.bytes id (levels.entry id.level).countdown
        (s.clock.expiresAt (levels.entry id.level).lifetime)) []) := by
    simp only [answer, hpow]
  rw [h.reply_run, if_pos hheld, hanswer]

theorem offers (h : s.Sound secret levels) {slot : Nat} {id : Identity}
    (hheld : (s.lending.object? slot).isSome)
    (hpow : (levels.entry id.level).policy = .proofOfWork) (body : Bytes) {expires : Nat}
    (hexpires : expires = s.clock.expiresAt (levels.entry id.level).lifetime) :
    s.Offers slot id body (levels.entry id.level) expires (Challenge.nonce expires)
      (Hex.encode (Hmac.tag secret.bytes (Challenge.message id (Challenge.nonce expires)))) where
  answer := by
    refine ⟨_, h.reply_challenge hheld hpow body, rfl, ?_⟩
    rw [← hexpires, Response.readable_body_wrote, Challenge.offered_eq]
  expires_eq := hexpires
  nonce_eq := rfl
  nonce_digits := ⟨Challenge.length_nonce expires, Challenge.isLower_nonce expires⟩
  proof_digits := ⟨by rw [Hex.length_encode, Hmac.length_tag], Hex.isLower_encode _⟩

/-- Where a level asks for work, a solution is told the first requirement that it does not meet,
and is answered with a token if there is none. -/
theorem reply_solution (h : s.Sound secret levels) {slot : Nat} {id : Identity}
    (hheld : (s.lending.object? slot).isSome)
    (hpow : (levels.entry id.level).policy = .proofOfWork) (body : Bytes) :
    ∃ response, (s.apply (.run slot ⟨.post, body, id⟩)).1 =
        .ran (firstUnmet (Challenge.requirements secret.bytes s.clock.now id body)) response ∧
      (firstUnmet (Challenge.requirements secret.bytes s.clock.now id body) = .ok () →
        response.body.readable = [] ∧ response.token.readable =
          Token.signed secret.bytes id (s.clock.expiresAt (levels.entry id.level).lifetime)) := by
  have hreply := h.reply_run slot ⟨.post, body, id⟩
  rw [if_pos hheld, answer_solution hpow] at hreply
  cases hfirst : firstUnmet (Challenge.requirements secret.bytes s.clock.now id body) with
  | error r =>
    rw [hfirst] at hreply
    exact ⟨_, hreply, fun hok => nomatch hok⟩
  | ok u =>
    rw [hfirst] at hreply
    exact ⟨_, hreply, fun _ => ⟨Response.readable_body_wrote .., Response.readable_token_wrote ..⟩⟩

theorem reply_own (h : s.Sound secret levels) (id : Identity) (lifetime : Duration) :
    (s.apply (.verify id (Token.signed secret.bytes id (s.clock.expiresAt lifetime)))).1 =
      .verified (.ok ()) := by
  have hlives : s.clock.now.toNanos ≤ s.clock.now.toNanos + lifetime.toNanos := by omega
  rw [h.reply_verify]
  rw [show Token.requirements secret.bytes s.clock.now id =
    Token.requirements secret.bytes s.clock.now { id with level := id.level } from rfl]
  rw [Token.firstUnmet_signed _ _ _ _ (Clock.expiresAt_lt s.clock lifetime)]
  rw [if_pos (UInt8.le_refl _), if_pos (Clock.le_expiresAt hlives)]

theorem exchanges (h : s.Sound secret levels) {slot : Nat} {a b : Identity}
    (hheld : (s.lending.object? slot).isSome)
    (hpow : (levels.entry b.level).policy = .proofOfWork) (hab : b.Alike a) {expires : Nat}
    (hlt : expires < wordLimit) (number : Bytes) :
    s.Exchanges slot b (levels.entry b.level).lifetime expires
      (Challenge.handed secret.bytes a expires number) := by
  obtain ⟨response, hpost, hgranted⟩ := h.reply_solution hheld hpow
    (Challenge.handed secret.bytes a expires number).text
  refine ⟨_, response, hpost, Challenge.ok_handed_iff secret.bytes s.clock.now hab hlt number, ?_⟩
  intro hok
  obtain ⟨hbody, htoken⟩ := hgranted hok
  refine ⟨hbody, ?_, ?_⟩
  · obtain ⟨out, hissue, hread⟩ := h.issues b (levels.entry b.level).lifetime
      (Buffer.sound_ofCapacity Token.size) (by decide)
    exact ⟨out, hissue, by rw [hread, htoken]; rfl⟩
  · -- The clock stands still, so the new token is checked at the time at which it was made.
    have hafter := h.apply (.run slot ⟨.post, (Challenge.handed secret.bytes a expires number).text, b⟩)
    have hown := hafter.reply_own b (levels.entry b.level).lifetime
    rw [clock_apply, ← htoken] at hown
    exact hown

end Sound

/-- **Work is exchanged for a token.** A challenge is handed out to whoever asks, and its solution
is answered with a token exactly if the number is one, the work is done and the time is not over. -/
theorem exchanged_for_work (secret : Secret) (levels : LevelTable) (clock : Clock)
    (calls : List Op) (slot : Nat) (id : Identity) (body : Bytes)
    (hpow : (levels.entry id.level).policy = .proofOfWork)
    (hheld : ((reached secret levels clock calls).lending.object? slot).isSome) :
    ∃ expires nonce proof,
      (reached secret levels clock calls).Offers slot id body (levels.entry id.level) expires nonce
        proof ∧
      ∀ (clock' : Clock) (calls' : List Op) (slot' : Nat) (asker : Identity) (number : Bytes),
        ((reached secret levels clock' calls').lending.object? slot').isSome → asker.Alike id →
        (reached secret levels clock' calls').Exchanges slot' asker
          (levels.entry id.level).lifetime expires ⟨nonce, proof, number⟩ := by
  have hasked := sound_reached secret levels clock calls
  generalize reached secret levels clock calls = asked at hheld hasked ⊢
  refine ⟨_, _, _, hasked.offers hheld hpow body rfl, ?_⟩
  intro clock' calls' slot' asker number hheld' halike
  have hpow' : (levels.entry asker.level).policy = .proofOfWork := by rw [halike.level, hpow]
  rw [← halike.level]
  exact (sound_reached secret levels clock' calls').exchanges hheld' hpow' halike
    (Clock.expiresAt_lt asked.clock _) number

namespace Sample

/-- The last instant at which the challenge of the small setting counts. -/
def deadline : Clock := ⟨⟨1700003600, 999999999, by decide, by decide, Instant.last.nanos_le⟩⟩

def mappedIdentity : Identity := { identity with address := .mapped 192 0 2 1 }

end Sample

/-- A solved challenge is worth a token up to the last instant, for either form of the address. -/
theorem exchanged_at_deadline : ∃ response nonce proof response',
    ((reached Sample.secret Sample.levels Sample.clock [.acquire 0]).apply
      (.run 0 ⟨.get, [], Sample.identity⟩)).1 = .ran (.ok ()) response ∧
    response.body.readable = Challenge.shown .default nonce proof ∧
    ((reached Sample.secret Sample.levels Sample.deadline [.acquire 0]).apply (.run 0
      ⟨.post, Challenge.Solution.text ⟨nonce, proof, Bytes.ofText "39469"⟩,
        Sample.mappedIdentity⟩)).1 = .ran (.ok ()) response' ∧
    response'.body.readable = [] := by
  obtain ⟨expires, nonce, proof, hoffers, hsolve⟩ :=
    exchanged_for_work Sample.secret Sample.levels Sample.clock [.acquire 0] 0 Sample.identity []
      rfl rfl
  obtain ⟨response, hget, -, hshown⟩ := hoffers.answer
  obtain ⟨outcome, response', hpost, hiff, hgranted⟩ :=
    hsolve Sample.deadline [.acquire 0] 0 Sample.mappedIdentity (Bytes.ofText "39469") rfl
      ⟨rfl, rfl, rfl⟩
  have hok : outcome = .ok () := by
    rw [hiff, hoffers.nonce_eq, hoffers.expires_eq]
    dsimp only
    decide +kernel
  rw [hok] at hpost
  exact ⟨response, nonce, proof, response', hget, hshown, hpost, (hgranted hok).1⟩

end Engine.Session
end Passage
