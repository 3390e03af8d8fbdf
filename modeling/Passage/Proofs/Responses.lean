import Passage.Proofs.ChallengeText
import Passage.Proofs.Gates

/- What a run leaves in the caller's hands.

   A caller keeps its response and hands it in again. What earlier runs left in it, good
   ones and refused ones, of this engine or of another, is gone before the policy is
   looked at.

   1. The level that a run goes by is the nearest one that the table has
      (`LevelTable.getElem?_entry`).
   2. Every response that runs leave behind is sound (`Response.Used.sound`), so a run
      fills it as it fills a new one.
   3. What it is filled with depends on the policy, the method and the outcome
      (`Response.Suits`): the two bodies and the token fit exactly, so a run is never
      short of room (`Engine.suits_answer`). -/
namespace Passage

theorem LevelTable.getElem?_entry (t : LevelTable) (level : UInt8) :
    t.levels[max 1 (min level.toNat t.levels.length) - 1]? = some (t.entry level) := by
  have hpos := List.length_pos_iff.mpr t.nonempty
  have hplace : max 1 (min level.toNat t.levels.length) - 1 =
      min (level.toNat - 1) (t.levels.length - 1) := by omega
  rw [hplace, entry, List.get_eq_getElem, List.getElem?_eq_getElem]

namespace Challenge

/-- `{"c": C, "t": 0}`, with a countdown. -/
def shownPass (countdown : Countdown) : Bytes :=
  Bytes.ofText "\x7b\"c\": " ++ [48 + countdown.value] ++ Bytes.ofText ", \"t\": 0\x7d"

theorem waved_eq (countdown : Countdown) : waved countdown = shownPass countdown := rfl

end Challenge

namespace Response

/-- A response that went through any number of runs, each by an engine after any calls. -/
inductive Used : Response → Prop where
  | new : Used blank
  | reset {r : Response} (h : Used r) : Used r.reset
  | run {r : Response} (h : Used r) (secret : Secret) (levels : LevelTable) (clock : Clock)
      (calls : List Engine.Session.Op) (now : Clock) (request : Request) :
      Used ((Engine.Session.reached secret levels clock calls).engine.run now request r).2.1

theorem Used.sound {r : Response} (h : r.Used) : r.Sound := by
  induction h with
  | new => exact sound_blank
  | reset _ ih =>
    rw [ih.reset_eq]
    exact sound_blank
  | run _ secret levels clock calls now request ih =>
    have hready := (Engine.Session.sound_reached secret levels clock calls).engine
    obtain ⟨e, hrun, -⟩ := hready.run now request ih
    rw [hrun]
    exact Engine.sound_answer secret levels now request

/-- What a run is told and leaves, by the policy of its level and the method. The policy, the
lifetime and the countdown are those of the level that the table gives; what is signed binds the
level byte that was asked for. A solution is judged by the requirements on it. -/
def Suits (key : Bytes) (level : Level) (now : Clock) (request : Request) (outcome : Outcome)
    (r : Response) : Prop :=
  let id := request.identity
  let bound := id.host ++ id.address.octets ++ [id.level]
  let expiry := LittleEndian.encode 8 (now.expiresAt level.lifetime)
  let token := Token.text id.level expiry (Hmac.tag key (bound ++ expiry))
  match level.policy, request.method with
  | .none, _ =>
    outcome = .ok () ∧ r.body.readable = Challenge.shownPass level.countdown ∧
      r.token.readable = token ∧ r.token.readable.length = 84
  | .proofOfWork, .get =>
    outcome = .ok () ∧ r.body.readable = Challenge.shown level.countdown (Hex.encode expiry)
        (Hex.encode (Hmac.tag key (bound ++ Hex.encode expiry))) ∧
      r.body.readable ≠ [] ∧ r.token.readable = []
  | .proofOfWork, .post =>
    DecidedBy (Challenge.requirements key now.now id request.body) outcome ∧
      (outcome = .ok () →
        r.body.readable = [] ∧ r.token.readable = token ∧ r.token.readable.length = 84)
  | .proofOfWork, .other => outcome = .error .invalidMethod

end Response

namespace Engine

theorem suits_answer (secret : Secret) (levels : LevelTable) (now : Clock) (request : Request) :
    Response.Suits secret.bytes (levels.entry request.identity.level) now request
      (answer secret levels now request).1 (answer secret levels now request).2 := by
  have hlength : ∀ body, (Response.wrote body (Token.signed secret.bytes request.identity
      (now.expiresAt (levels.entry request.identity.level).lifetime))).token.readable.length = 84 :=
    fun body => (congrArg _ (Response.readable_token_wrote ..)).trans (Token.length_signed ..)
  rw [Response.Suits, answer]
  cases (levels.entry request.identity.level).policy with
  | none =>
    exact ⟨rfl, (Response.readable_body_wrote ..).trans (Challenge.waved_eq ..),
      Response.readable_token_wrote .., hlength _⟩
  | proofOfWork =>
    cases request.method with
    | get =>
      refine ⟨rfl, (Response.readable_body_wrote ..).trans (Challenge.offered_eq ..), ?_, rfl⟩
      rw [Response.readable_body_wrote, ← List.length_pos_iff, Challenge.length_offered]
      decide
    | post =>
      have hdecided := decidedBy_firstUnmet (Challenge.requirements secret.bytes now.now
        request.identity request.body)
      generalize firstUnmet (Challenge.requirements secret.bytes now.now request.identity
        request.body) = outcome at hdecided ⊢
      cases outcome with
      | error cause =>
        refine ⟨hdecided, fun hok => ?_⟩
        cases hok
      | ok _ => exact ⟨hdecided, fun _ => ⟨rfl, Response.readable_token_wrote .., hlength _⟩⟩
    | other => rfl

/-- A refusal leaves nothing for the client, and is never for want of room. -/
theorem answer_refused {secret : Secret} {levels : LevelTable} {now : Clock} {request : Request}
    {cause : Rejection} (hrefused : (answer secret levels now request).1 = .error cause) :
    (answer secret levels now request).2 = .blank ∧ cause ≠ .bufferOverflow := by
  revert hrefused
  rw [answer]
  split
  · intro herror
    cases herror
  · intro herror
    cases herror
  · split
    · next hfirst =>
      intro herror
      cases herror
      -- No cause that a solution can be refused for is a want of room.
      refine ⟨rfl, fun hroom => ?_⟩
      exact absurd (hroom ▸ Session.mem_solutionCauses hfirst) (by decide)
    · intro herror
      cases herror
  · intro herror
    cases herror
    exact ⟨rfl, by decide⟩

/-- **A response is as good as new for a run.** Whatever runs it went through before, an engine
gives the outcome and fills it as it would a new one: as the nearest level of the table asks, with
nothing for the client after a refusal and always with room enough. -/
theorem run_used (secret : Secret) (levels : LevelTable) (clock : Clock)
    (calls : List Session.Op) (now : Clock) (request : Request) (response : Response)
    (hused : response.Used) :
    ∃ level outcome filled engine engine',
      levels.levels[max 1 (min request.identity.level.toNat levels.levels.length) - 1]? =
        some level ∧
      (Session.reached secret levels clock calls).engine.run now request response =
        (outcome, filled, engine) ∧
      (Session.reached secret levels clock calls).engine.run now request .blank =
        (outcome, filled, engine') ∧
      filled.Suits secret.bytes level now request outcome ∧
      ∀ cause, outcome = .error cause →
        filled.body.readable = [] ∧ filled.token.readable = [] ∧ cause ≠ .bufferOverflow := by
  have hready := (Session.sound_reached secret levels clock calls).engine
  obtain ⟨engine, hrun, -⟩ := hready.run now request hused.sound
  obtain ⟨engine', hrun', -⟩ := hready.run now request Response.sound_blank
  refine ⟨_, _, _, engine, engine', levels.getElem?_entry request.identity.level, hrun, hrun',
    suits_answer secret levels now request, fun cause hcause => ?_⟩
  obtain ⟨hblank, hroom⟩ := answer_refused hcause
  rw [hblank]
  exact ⟨rfl, rfl, hroom⟩

namespace Session.Sample

/-- A request for a challenge at level 0, which the table does not have. -/
def asking : Request := ⟨.get, [], { identity with level := 0 }⟩

def passed : Response := ((reached secret openLevels clock []).engine.run clock asking .blank).2.1

end Session.Sample

/-- A response that still shows a body and a token gets a challenge for the first level, whose proof
binds level 0, and loses the token. -/
theorem run_passed : Session.Sample.passed.token.readable.length = 84 ∧
    ∃ filled engine,
      (Session.reached Session.Sample.secret Session.Sample.levels Session.Sample.clock []).engine.run
        Session.Sample.clock Session.Sample.asking Session.Sample.passed =
        (.ok (), filled, engine) ∧
      filled.body.readable ≠ [] ∧ filled.token.readable = [] := by
  have hused : Session.Sample.passed.Used :=
    .run .new Session.Sample.secret Session.Sample.openLevels Session.Sample.clock []
      Session.Sample.clock Session.Sample.asking
  obtain ⟨level, outcome, filled, engine, -, hlevel, hrun, -, hsuits, -⟩ :=
    run_used Session.Sample.secret Session.Sample.levels Session.Sample.clock []
      Session.Sample.clock Session.Sample.asking Session.Sample.passed hused
  obtain rfl : Level.ofParts Session.Sample.hour .proofOfWork = level := Option.some.inj hlevel
  obtain ⟨rfl, -, hbody, htoken⟩ := hsuits
  exact ⟨by decide +kernel, filled, engine, hrun, hbody, htoken⟩

end Engine
end Passage
