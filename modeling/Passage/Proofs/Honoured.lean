import Passage.Proofs.Gates
import Passage.Proofs.Instances
import Passage.Proofs.TokenText

/- What one frontend hands out, all frontends of the instance honour.

   1. A token comes only with a good outcome, and is the one that is signed for the
      client at the requested level until the end of the lifetime in the table of the
      frontend that was asked (`Engine.token_answer`, `Frontend.reply_token`).
   2. Of a table, a check reads nothing: only the secret, the clock and the client. So
      every frontend with the secret honours the token (`Frontend.Ready.honours`).
   3. After any calls all frontends of an instance are ready with its one secret, so what
      one of them hands out all of them honour (`Instance.honoured_everywhere`). -/
namespace Passage

/-- The host and the written address are all that a check reads of a client. -/
theorem Token.requirements_of_client {a b : Identity} (hhost : a.host = b.host)
    (hoctets : a.address.octets = b.address.octets) (key : Bytes) (now : Instant) (token : Bytes) :
    requirements key now a token = requirements key now { b with level := a.level } token := by
  simp only [requirements, hhost, hoctets]

/-- A run that leaves a token went well, and the token is the signed one. -/
theorem Engine.token_answer (secret : Secret) (levels : LevelTable) (clock : Clock)
    (request : Request) :
    (answer secret levels clock request).2.token.readable = [] ∨
      (answer secret levels clock request).1 = .ok () ∧
        (answer secret levels clock request).2.token.readable =
          Token.signed secret.bytes request.identity
            (clock.expiresAt (levels.entry request.identity.level).lifetime) := by
  rw [answer]
  split
  · exact .inr ⟨rfl, Response.readable_token_wrote ..⟩
  · exact .inl (Response.readable_token_wrote ..)
  · split
    · exact .inl rfl
    · exact .inr ⟨rfl, Response.readable_token_wrote ..⟩
  · exact .inl rfl

theorem Answer.token_ofRun {policy : Policy} {outcome : Outcome} {response : Response}
    {token : Bytes} (h : (ofRun policy outcome response).token = some token) :
    token = response.token.readable ∧ token ≠ [] := by
  rw [ofRun] at h
  by_cases hempty : response.token.readable.isEmpty
  · simp only [hempty, if_true] at h
    cases h
  · simp only [hempty] at h
    cases h
    exact ⟨rfl, fun hnil => hempty (List.isEmpty_iff.mpr hnil)⟩

namespace Frontend

/-- A reply is put together from one run, for the identity that the fields stand for. -/
theorem reply_eq_some {secret : Secret} {levels : LevelTable} {clock : Clock} {fields : Fields}
    {method body : Bytes} {answer : Answer}
    (h : reply secret levels clock fields method body = .ok (some answer)) :
    ∃ id m, fields.identity = .ok id ∧ answer = .ofRun (levels.entry fields.level).policy
      (Engine.answer secret levels clock ⟨m, body, id⟩).1
      (Engine.answer secret levels clock ⟨m, body, id⟩).2 := by
  rw [reply] at h
  split at h
  · cases h
  cases hid : fields.identity with
  | error fault =>
    rw [hid] at h
    cases h
  | ok id =>
    rw [hid] at h
    cases hm : Method.ofBytes method with
    | other =>
      rw [hm] at h
      cases h
    | get =>
      rw [hm] at h
      exact ⟨id, .get, rfl, (Option.some.inj (Except.ok.inj h)).symm⟩
    | post =>
      rw [hm] at h
      exact ⟨id, .post, rfl, (Option.some.inj (Except.ok.inj h)).symm⟩

/-- A reply with a token had a good outcome, and the token is the one that is signed for the
client and counts for the lifetime in the frontend's table. -/
theorem reply_token {secret : Secret} {levels : LevelTable} {clock : Clock} {fields : Fields}
    {method body : Bytes} {answer : Answer} {token : Bytes}
    (h : reply secret levels clock fields method body = .ok (some answer))
    (ht : answer.token = some token) :
    ∃ id, fields.identity = .ok id ∧ answer.outcome = .ok () ∧
      token = Token.signed secret.bytes id (clock.expiresAt (levels.entry fields.level).lifetime) := by
  obtain ⟨id, m, hid, rfl⟩ := reply_eq_some h
  obtain ⟨rfl, hne⟩ := Answer.token_ofRun ht
  rcases Engine.token_answer secret levels clock ⟨m, body, id⟩ with hnone | ⟨hok, hsigned⟩
  · exact absurd hnone hne
  · rw [Fields.level_identity hid] at hsigned
    exact ⟨id, hid, hok, hsigned⟩

/-- A token that the secret signed is told by its second and its level: it is good to the end of
its lifetime at its level and below, and too low above. -/
theorem verdict_signed (secret : Secret) {granted shown : Fields} {id : Identity}
    (hid : granted.identity = .ok id) (hclient : shown.SameClient granted)
    (hasked : shown.level ≠ 0) (issued : Clock) (lifetime : Duration) (clock : Clock) :
    ∃ told, verdict secret clock shown
        (Token.signed secret.bytes id (issued.expiresAt lifetime)) = .ok told ∧
      (shown.level ≤ granted.level →
        clock.now.toNanos ≤ issued.now.toNanos + lifetime.toNanos → told = .valid) ∧
      (granted.level < shown.level → told = .invalid .levelTooLow) := by
  obtain ⟨id', hid', hhost, hoctets, hlevel'⟩ := hclient.identity hid
  rw [verdict, if_neg hasked, hid']
  simp only [Token.requirements_of_client hhost hoctets,
    Token.firstUnmet_signed _ _ _ _ (Clock.expiresAt_lt issued lifetime),
    Fields.level_identity hid, hlevel']
  refine ⟨_, rfl, fun hle ht => ?_, fun hlt => ?_⟩
  · rw [if_pos hle, if_pos (Clock.le_expiresAt ht)]
    rfl
  · rw [if_neg (UInt8.not_le.mpr hlt)]
    rfl

/-- Until an instant, the frontend takes the token from the client of `granted` at the level of
`granted` and below, and tells everyone who asks for more that the level is too low. -/
def Honours (g : Frontend) (token : Bytes) (granted : Fields) (limit : Int) : Prop :=
  ∀ (clock : Clock) (shown : Fields), shown.SameClient granted → shown.level ≠ 0 →
    ∃ verdict, (g.validate clock shown token).1 = .ok verdict ∧
      (shown.level ≤ granted.level → clock.now.toNanos ≤ limit → verdict = .valid) ∧
      (granted.level < shown.level → verdict = .invalid .levelTooLow)

/-- What a frontend hands out, every frontend that is ready with its secret honours. -/
theorem Ready.honours {secret : Secret} {f g : Frontend} (hf : f.Ready secret)
    (hg : g.Ready secret) {clock : Clock} {fields : Fields} {method body : Bytes} {answer : Answer}
    {token : Bytes} (hreply : (f.challenge clock fields method body).1 = .ok (some answer))
    (htoken : answer.token = some token) :
    answer.outcome = .ok () ∧ g.Honours token fields
      (clock.now.toNanos + (f.engine.levels.entry fields.level).lifetime.toNanos) := by
  -- The two halves meet in the token that the secret signs for the client: the one frontend hands
  -- it out, the other one checks it.
  obtain ⟨f', hcall, -, -⟩ := hf.challenge clock fields method body
  rw [hcall] at hreply
  obtain ⟨id, hid, hok, rfl⟩ := reply_token hreply htoken
  refine ⟨hok, fun clock' shown hclient hasked => ?_⟩
  obtain ⟨told, hverdict, htold⟩ := verdict_signed secret hid hclient hasked clock
    (f.engine.levels.entry fields.level).lifetime clock'
  obtain ⟨g', hcheck, -, -⟩ := hg.validate clock' shown
    (Token.signed secret.bytes id (clock.expiresAt (f.engine.levels.entry fields.level).lifetime))
  rw [hverdict] at hcheck
  exact ⟨told, congrArg Prod.fst hcheck, htold⟩

end Frontend

namespace Sample
open Engine.Session.Sample

/-- One level for all, which asks for nothing, and a shop, which asks for work. -/
def config : Config :=
  ⟨secret, [.ofParts hour .none], [("shop", [.ofParts hour .proofOfWork])], none⟩

def client : Fields := ⟨1, [192, 0, 2, 1], [97]⟩

def mappedClient (level : UInt8) : Fields :=
  ⟨level, [0, 0, 0, 0, 0, 0, 0, 0, 0, 0, 0xff, 0xff, 192, 0, 2, 1], [97]⟩

/-- The end of the hour, to the nanosecond. -/
def closing : Clock := clock.advance hour

theorem reply_solution : ∃ answer, Frontend.reply secret levels clock client (Bytes.ofText "POST")
      solution = .ok (some answer) ∧
    answer.token = some (Token.signed secret.bytes identity (clock.expiresAt hour)) := by
  have hmet : firstUnmet (Challenge.requirements secret.bytes clock.now identity solution) = .ok () :=
    (firstUnmet_ok_iff _).mpr (by decide +kernel)
  have hanswer : Engine.answer secret levels clock ⟨.post, solution, identity⟩ =
      (.ok (), .wrote [] (Token.signed secret.bytes identity (clock.expiresAt hour))) := by
    rw [Engine.Session.answer_solution rfl, hmet]
    rfl
  have hreply : Frontend.reply secret levels clock client (Bytes.ofText "POST") solution =
      .ok (some (.ofRun .proofOfWork (Engine.answer secret levels clock ⟨.post, solution, identity⟩).1
        (Engine.answer secret levels clock ⟨.post, solution, identity⟩).2)) := rfl
  rw [hanswer] at hreply
  have hne : Token.signed secret.bytes identity (clock.expiresAt hour) ≠ [] := by
    rw [← List.length_pos_iff, Token.length_signed]
    decide
  refine ⟨_, hreply, ?_⟩
  rw [Answer.ofRun, Response.readable_token_wrote]
  simp only [List.isEmpty_iff, hne, if_false]

end Sample

namespace Instance

/-- **What one frontend hands out, all honour.** A reply with a token had a good outcome, and every
frontend of the instance takes the token from the same client until the end of its lifetime. -/
theorem honoured_everywhere (secret : Secret) (i : Instance) (hnew : i.NewOf secret)
    (calls : List Op) (f : Frontend) (hf : f ∈ (i.run calls).frontends) (clock : Clock)
    (fields : Fields) (method body : Bytes) (answer : Answer) (token : Bytes)
    (hreply : (f.challenge clock fields method body).1 = .ok (some answer))
    (htoken : answer.token = some token) :
    answer.outcome = .ok () ∧
      ∀ (calls' : List Op) (g : Frontend), g ∈ (i.run calls').frontends →
        g.Honours token fields
          (clock.now.toNanos + (f.engine.levels.entry fields.level).lifetime.toNanos) := by
  have hready : ∀ (ops : List Op) (f : Frontend), f ∈ (i.run ops).frontends → f.Ready secret :=
    fun ops => (hnew.sound.run ops).sound
  exact ⟨((hready calls f hf).honours (hready calls f hf) hreply htoken).1,
    fun calls' g hg => ((hready calls f hf).honours (hready calls' g hg) hreply htoken).2⟩

/-- Work that is done for the shop counts everywhere to the end of the hour, and for no higher
level. -/
theorem honoured_outside_shop : ∃ (i : Instance) (f : Frontend) (answer : Answer) (token : Bytes),
    Sample.config.buildInstance Engine.Session.Sample.clock = .ok i ∧ f ∈ (i.run []).frontends ∧
    (f.challenge i.clock Sample.client (Bytes.ofText "POST") Engine.Session.Sample.solution).1 =
      .ok (some answer) ∧
    answer.token = some token ∧ answer.outcome = .ok () ∧
    (i.fallback.validate Sample.closing (Sample.mappedClient 1) token).1 = .ok .valid ∧
    (i.fallback.validate Sample.closing (Sample.mappedClient 2) token).1 =
      .ok (.invalid .levelTooLow) := by
  obtain ⟨i, hbuild, hshop, hclock⟩ : ∃ i,
      Sample.config.buildInstance Engine.Session.Sample.clock = .ok i ∧
      (⟨"shop", .build Engine.Session.Sample.secret Engine.Session.Sample.levels⟩ : Frontend) ∈
        i.frontends ∧ i.clock = Engine.Session.Sample.clock :=
    ⟨_, rfl, List.mem_cons_of_mem _ List.mem_cons_self, rfl⟩
  have hnew := (Config.newOf_buildInstance hbuild).1
  obtain ⟨answer, hreply, htoken⟩ := Sample.reply_solution
  obtain ⟨f', hcall, -, -⟩ := (hnew.sound _ hshop).challenge i.clock Sample.client
    (Bytes.ofText "POST") Engine.Session.Sample.solution
  rw [hclock] at hcall
  have hchallenge := (congrArg Prod.fst hcall).trans hreply
  obtain ⟨hok, hall⟩ := honoured_everywhere _ i hnew [] _ hshop _ _ _ _ answer _ hchallenge htoken
  have hhonours := hall [] i.fallback List.mem_cons_self Sample.closing
  obtain ⟨verdict, hvalid, hgood, -⟩ := hhonours (Sample.mappedClient 1) ⟨rfl, rfl⟩ (by decide)
  obtain ⟨verdict', hinvalid, -, hlow⟩ := hhonours (Sample.mappedClient 2) ⟨rfl, rfl⟩ (by decide)
  rw [hgood (by decide) (by decide)] at hvalid
  rw [hlow (by decide)] at hinvalid
  exact ⟨i, _, answer, _, hbuild, hshop, hclock ▸ hchallenge, htoken, hok, hvalid, hinvalid⟩

end Instance
end Passage
