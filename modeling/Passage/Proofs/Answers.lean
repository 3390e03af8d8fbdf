import Passage.Proofs.SolutionCheck
import Passage.Proofs.TokenCheck

/- What a ready engine answers, told without an engine.

   `Engine.answer` is a policy's run as a value of the secret, the table, the clock
   and the request: the outcome and the whole response, cell by cell. No pool, no
   stream and no earlier use of the response occurs in it.

   1. A token and a challenge are written piece by piece as far as there is room, for
      the tag that the secret alone determines (`Ready.issue`, `Ready.challenge`).
   2. The bodies and the token fit into a new response (`length_signed`,
      `length_passBody`, `length_body`), so no run is short of room.
   3. A run of a ready engine on a sound response gives that answer and leaves a ready
      engine (`Ready.run`); the response it leaves is sound again (`sound_answer`). -/
namespace Passage

namespace Token

/-- The fields and separators of the token that a key signs for an identity until a second. -/
def fields (key : Bytes) (id : Identity) (expires : Nat) : List Bytes :=
  pieces id.level (LittleEndian.encode 8 expires)
    (Hmac.tag key (message id (LittleEndian.encode 8 expires)))

def signed (key : Bytes) (id : Identity) (expires : Nat) : Bytes := (fields key id expires).flatten

theorem length_text (level : UInt8) (expiry tag : Bytes) :
    (text level expiry tag).length = 4 + 2 * expiry.length + 2 * tag.length := by
  simp only [text, pieces, List.flatten_cons, List.flatten_nil, List.append_nil, List.length_append,
    Hex.length_encode, List.length_cons, List.length_nil]
  omega

theorem length_signed (key : Bytes) (id : Identity) (expires : Nat) :
    (signed key id expires).length = size := by
  rw [signed, fields, ← text, length_text, LittleEndian.length_encode, Hmac.length_tag]
  rfl

end Token

namespace Challenge

def nonce (expires : Nat) : Bytes := Hex.encode (LittleEndian.encode 8 expires)

/-- The body of a challenge that a key signs for an identity until a second. -/
def offered (key : Bytes) (id : Identity) (countdown : Countdown) (expires : Nat) : Bytes :=
  (body countdown (nonce expires) (Hmac.tag key (message id (nonce expires)))).flatten

/-- The body that asks for nothing, as one text. -/
def waved (countdown : Countdown) : Bytes := (passBody countdown).flatten

theorem length_nonce (expires : Nat) : (nonce expires).length = 16 := by
  rw [nonce, Hex.length_encode, LittleEndian.length_encode]

theorem length_bodyHead (countdown : Countdown) (kind : UInt8) :
    (bodyHead countdown kind).flatten.length = 15 := rfl

theorem length_waved (countdown : Countdown) : (waved countdown).length = 16 := rfl

theorem length_offered (key : Bytes) (id : Identity) (countdown : Countdown) (expires : Nat) :
    (offered key id countdown expires).length = 114 := by
  rw [offered, body, List.flatten_append, List.length_append, length_bodyHead]
  simp only [List.flatten_cons, List.flatten_nil, List.append_nil, List.length_append,
    Hex.length_encode, length_nonce, Hmac.length_tag]
  rfl

/-- The proof's digits stand at a fixed place in the body. -/
theorem extract_offered (key : Bytes) (id : Identity) (countdown : Countdown) (expires : Nat) :
    (offered key id countdown expires).extract 48 112 =
      Hex.encode (Hmac.tag key (message id (nonce expires))) := by
  refine Bytes.extract_of_eq (a := (bodyHead countdown 1).flatten ++ Bytes.ofText ", \"r\": \"" ++
    nonce expires ++ Bytes.ofText "\", \"s\": \"") (c := Bytes.ofText "\"\x7d") ?_ ?_ ?_
  · simp only [offered, body, List.flatten_append, List.flatten_cons, List.flatten_nil,
      List.append_nil, List.append_assoc]
  · simp only [List.length_append, length_bodyHead, length_nonce]
    rfl
  · rw [Hex.length_encode, Hmac.length_tag]

end Challenge

namespace Response

/-- A new response whose two parts were written once. -/
def wrote (body token : Bytes) : Response :=
  ⟨.holding body 0 (bodyCapacity - body.length), .holding token 0 (Token.size - token.length)⟩

theorem sound_wrote {body token : Bytes} (hb : body.length ≤ bodyCapacity)
    (ht : token.length ≤ Token.size) : (wrote body token).Sound :=
  ⟨Buffer.sound_holding (Nat.zero_le _), Buffer.sound_holding (Nat.zero_le _),
    by rw [wrote, Buffer.capacity_holding]; omega, by rw [wrote, Buffer.capacity_holding]; omega⟩

@[simp] theorem readable_body_wrote (body token : Bytes) : (wrote body token).body.readable = body := by
  rw [wrote, Buffer.readable_holding, List.drop_zero]

@[simp] theorem readable_token_wrote (body token : Bytes) :
    (wrote body token).token.readable = token := by
  rw [wrote, Buffer.readable_holding, List.drop_zero]

end Response

theorem Buffer.writeAll_ofCapacity {pieces : List Bytes} {n : Nat} (h : pieces.flatten.length ≤ n) :
    (ofCapacity n).writeAll pieces = (.ok (), holding pieces.flatten 0 (n - pieces.flatten.length)) := by
  rw [ofCapacity_eq, writeAll_holding [] 0 n pieces h, List.nil_append]

namespace Engine

/-- What a run of the requested level's policy answers. -/
def answer (secret : Secret) (levels : LevelTable) (clock : Clock) (request : Request) :
    Outcome × Response :=
  let id := request.identity
  let level := levels.entry id.level
  let token := Token.signed secret.bytes id (clock.expiresAt level.lifetime)
  match level.policy, request.method with
  | .none, _ => (.ok (), .wrote (Challenge.waved level.countdown) token)
  | .proofOfWork, .get =>
    (.ok (), .wrote (Challenge.offered secret.bytes id level.countdown
      (clock.expiresAt level.lifetime)) [])
  | .proofOfWork, .post =>
    match firstUnmet (Challenge.requirements secret.bytes clock.now id request.body) with
    | .error r => (.error r, .blank)
    | .ok () => (.ok (), .wrote [] token)
  | .proofOfWork, .other => (.error .invalidMethod, .blank)

theorem sound_answer (secret : Secret) (levels : LevelTable) (clock : Clock) (request : Request) :
    (answer secret levels clock request).2.Sound := by
  rw [answer]
  split
  · exact Response.sound_wrote (by rw [Challenge.length_waved]; decide)
      (Nat.le_of_eq (Token.length_signed ..))
  · exact Response.sound_wrote (by rw [Challenge.length_offered]; decide) (by decide)
  · split
    · exact Response.sound_blank
    · exact Response.sound_wrote (by decide) (Nat.le_of_eq (Token.length_signed ..))
  · exact Response.sound_blank

/-- A call that fills something gives this outcome, fills it like this, and leaves a ready
engine. -/
def Fills (secret : Secret) (levels : LevelTable) {α : Type} (call : Outcome × α × Engine)
    (outcome : Outcome) (filled : α) : Prop :=
  ∃ e, call = (outcome, filled, e) ∧ e.Ready secret levels

namespace Ready
variable {secret : Secret} {levels : LevelTable} {e : Engine}

/-- As much of a token is written as there is room for. -/
theorem issue (h : e.Ready secret levels) (clock : Clock) (id : Identity) (lifetime : Duration)
    (out : Buffer) :
    Fills secret levels (e.issue clock id lifetime out)
      (Shortage.outcome
        (out.writeAll (Token.fields secret.bytes id (clock.expiresAt lifetime))).1)
      (out.writeAll (Token.fields secret.bytes id (clock.expiresAt lifetime))).2 := by
  obtain ⟨e₁, hsign, h₁⟩ :=
    h.sign_pair id.material (LittleEndian.encode 8 (clock.expiresAt lifetime))
  rw [← Token.message] at hsign
  rw [Engine.issue]
  simp only [hsign]
  exact ⟨e₁, rfl, h₁⟩

theorem issue_new (h : e.Ready secret levels) (clock : Clock) (id : Identity) (lifetime : Duration) :
    Fills secret levels (e.issue clock id lifetime (.ofCapacity Token.size)) (.ok ())
      (.holding (Token.signed secret.bytes id (clock.expiresAt lifetime)) 0
        (Token.size - (Token.signed secret.bytes id (clock.expiresAt lifetime)).length)) := by
  have hi := h.issue clock id lifetime (.ofCapacity Token.size)
  rw [Buffer.writeAll_ofCapacity (Nat.le_of_eq (Token.length_signed ..))] at hi
  exact hi

theorem challenge (h : e.Ready secret levels) (clock : Clock) (id : Identity) (level : Level) :
    Fills secret levels (e.challenge clock id level (.ofCapacity Response.bodyCapacity)) (.ok ())
      (.holding (Challenge.offered secret.bytes id level.countdown (clock.expiresAt level.lifetime)) 0
        (Response.bodyCapacity - (Challenge.offered secret.bytes id level.countdown
          (clock.expiresAt level.lifetime)).length)) := by
  have hfit : (Challenge.offered secret.bytes id level.countdown
      (clock.expiresAt level.lifetime)).length ≤ Response.bodyCapacity := by
    rw [Challenge.length_offered]
    decide
  obtain ⟨e₁, hsign, h₁⟩ :=
    h.sign_pair id.material (Challenge.nonce (clock.expiresAt level.lifetime))
  rw [← Challenge.message, Challenge.nonce] at hsign
  rw [Challenge.offered, Challenge.nonce] at hfit ⊢
  rw [Engine.challenge]
  simp only [hsign, Buffer.writeAll_ofCapacity hfit, Shortage.outcome]
  exact ⟨e₁, rfl, h₁⟩

theorem pass (h : e.Ready secret levels) (clock : Clock) (id : Identity) (level : Level) :
    Fills secret levels (e.pass clock id level .blank) (.ok ())
      (.wrote (Challenge.waved level.countdown)
        (Token.signed secret.bytes id (clock.expiresAt level.lifetime))) := by
  have hfit : (Challenge.passBody level.countdown).flatten.length ≤ Response.bodyCapacity := by
    show 16 ≤ 256
    decide
  obtain ⟨e₁, hissue, h₁⟩ := h.issue_new clock id level.lifetime
  rw [Engine.pass, Response.blank]
  simp only [Buffer.writeAll_ofCapacity hfit, hissue]
  exact ⟨e₁, rfl, h₁⟩

/-- A run depends on what the request, the clock, the secret and the table say, and on nothing
that the engine or the response went through. -/
theorem run (h : e.Ready secret levels) (clock : Clock) (request : Request) {response : Response}
    (hr : response.Sound) :
    Fills secret levels (e.run clock request response) (answer secret levels clock request).1
      (answer secret levels clock request).2 := by
  -- The response is reset before the policy is looked at, so it is a new one on every way.
  rw [Engine.run, hr.reset_eq, h.levels_eq, answer]
  cases hp : (levels.entry request.identity.level).policy with
  | none => exact h.pass clock request.identity _
  | proofOfWork =>
    cases hm : request.method with
    | get =>
      obtain ⟨e₁, hc, h₁⟩ := h.challenge clock request.identity
        (levels.entry request.identity.level)
      simp only [Response.blank, hc]
      exact ⟨e₁, rfl, h₁⟩
    | post =>
      obtain ⟨e₁, hc, h₁⟩ := h.checkSolution clock request.identity request.body
      simp only [hc]
      cases firstUnmet (Challenge.requirements secret.bytes clock.now request.identity
        request.body) with
      | error r => exact ⟨e₁, rfl, h₁⟩
      | ok u =>
        obtain ⟨e₂, hi, h₂⟩ := h₁.issue_new clock request.identity
          (levels.entry request.identity.level).lifetime
        simp only [Response.blank, hi]
        exact ⟨e₂, rfl, h₂⟩
    | other => exact ⟨e, rfl, h⟩

end Ready
end Engine
end Passage
