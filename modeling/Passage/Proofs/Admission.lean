import Mathlib.Data.Fintype.EquivFin
import Passage.Proofs.Honoured
import Passage.Proofs.Isolation
import Passage.Proofs.Renewal
import Passage.Proofs.Responses

/- What a frontend lets through to its engine, and all that can come back.

   1. Both calls go through one gate (`Fields.gate`): level 0 switches it off, then the
      address, the host and the method must be usable, in this order, and behind it stands
      what the engine tells (`Fields.gated_gate`).
   2. Whatever calls the engine has answered, what it tells there is its own result on the
      fields and a new response (`Frontend.Ready.gated_validate`,
      `Frontend.Ready.gated_challenge`). A frontend's calls are calls of its engine, so that it
      stays such a frontend (`Frontend.validate_reached`, `Frontend.challenge_reached`).
   3. Behind the gate the method is one that a policy can be run with. So no answer tells of a
      method, of a buffer or of an unknown policy, and a token comes with every good outcome
      but that of a challenge (`Frontend.suits_reply`). -/
namespace Passage

namespace Method

/-- The names of methods that a policy can be run with. -/
def Named (raw : Bytes) : Prop := raw = Bytes.ofText "GET" ∨ raw = Bytes.ofText "POST"

instance (raw : Bytes) : Decidable (Named raw) := inferInstanceAs (Decidable (_ ∨ _))

theorem ofBytes_eq_get_iff (raw : Bytes) : ofBytes raw = .get ↔ raw = Bytes.ofText "GET" := by
  rw [ofBytes]
  split
  · next hget => simp [hget]
  · next hget => split <;> simp [hget]

theorem ofBytes_eq_other_iff (raw : Bytes) : ofBytes raw = .other ↔ ¬Named raw := by
  rw [ofBytes, Named]
  split
  · next hget => simp [hget]
  · next hget => split <;> simp [*]

end Method

namespace Fields

def HasAddress (fields : Fields) : Prop := fields.source.length = 4 ∨ fields.source.length = 16

/-- What fields are told: `off` at level 0, then the first fault, and where there is none what is
`asked` for the identity that they stand for. -/
structure Gated {α : Type} (fields : Fields) (fits : Prop) (off : α) (asked : Identity → α)
    (told : Except FieldFault α) : Prop where
  off : fields.level = 0 → told = .ok off
  address : fields.level ≠ 0 → ¬fields.HasAddress →
    told = .error (.invalidAddress fields.source.length)
  host : fields.level ≠ 0 → fields.HasAddress → 256 < fields.host.length →
    told = .error (.hostTooLong fields.host.length)
  method : fields.level ≠ 0 → fields.HasAddress → fields.host.length ≤ 256 → ¬fits →
    told = .error .unsupportedMethod
  asked : fields.level ≠ 0 → fields.HasAddress → fields.host.length ≤ 256 → fits →
    ∃ address, Address.ofOctets? fields.source = some address ∧
      told = .ok (asked ⟨address, fields.host, fields.level⟩)

/-- The way to `asked`, past the switch, the address, the host and the method. -/
def gate {α : Type} (fields : Fields) (fits : Prop) [Decidable fits] (off : α)
    (asked : Identity → α) : Except FieldFault α :=
  if fields.level = 0 then .ok off
  else
    match fields.identity with
    | .error fault => .error fault
    | .ok id => if fits then .ok (asked id) else .error .unsupportedMethod

theorem fault?_of_address {fields : Fields} (h : ¬fields.HasAddress) :
    fields.fault? = some (.invalidAddress fields.source.length) :=
  if_pos (not_or.mp h)

theorem fault?_of_host {fields : Fields} (h : fields.HasAddress) (hlong : 256 < fields.host.length) :
    fields.fault? = some (.hostTooLong fields.host.length) := by
  rw [fault?, if_neg fun hnone => not_or.mpr hnone h, if_pos hlong]

theorem fault?_of_usable {fields : Fields} (h : fields.HasAddress)
    (hshort : fields.host.length ≤ 256) : fields.fault? = none := by
  rw [fault?, if_neg fun hnone => not_or.mpr hnone h, if_neg (Nat.not_lt.mpr hshort)]

section Gate
variable {α : Type} {fields : Fields} (fits : Prop) [Decidable fits] (off : α) (asked : Identity → α)

theorem gate_of_fault (hlevel : fields.level ≠ 0) {fault : FieldFault}
    (h : fields.fault? = some fault) : fields.gate fits off asked = .error fault := by
  rw [gate, if_neg hlevel, identity_of_fault h]

theorem gate_of_usable (hlevel : fields.level ≠ 0) (h : fields.fault? = none) :
    ∃ address, Address.ofOctets? fields.source = some address ∧ fields.gate fits off asked =
      if fits then .ok (asked ⟨address, fields.host, fields.level⟩) else .error .unsupportedMethod := by
  obtain ⟨address, ha, hid⟩ := identity_of_usable h
  exact ⟨address, ha, by rw [gate, if_neg hlevel, hid]⟩

theorem gated_gate : fields.Gated fits off asked (fields.gate fits off asked) where
  off hlevel := if_pos hlevel
  address hlevel hnone := gate_of_fault fits off asked hlevel (fault?_of_address hnone)
  host hlevel haddress hlong := gate_of_fault fits off asked hlevel (fault?_of_host haddress hlong)
  method hlevel haddress hshort hfits := by
    obtain ⟨address, -, htold⟩ :=
      gate_of_usable fits off asked hlevel (fault?_of_usable haddress hshort)
    rw [htold, if_neg hfits]
  asked hlevel haddress hshort hfits := by
    obtain ⟨address, ha, htold⟩ :=
      gate_of_usable fits off asked hlevel (fault?_of_usable haddress hshort)
    exact ⟨address, ha, by rw [htold, if_pos hfits]⟩

/-- What is told without a fault is what stands at the switch, or behind the gate. -/
theorem of_gate_eq_ok {fits : Prop} [Decidable fits] {off told : α} {asked : Identity → α}
    (h : fields.gate fits off asked = .ok told) :
    told = off ∨ fits ∧ ∃ id, fields.identity = .ok id ∧ told = asked id := by
  rw [gate] at h
  split at h
  · exact .inl (Except.ok.inj h).symm
  cases hid : fields.identity with
  | error fault =>
    rw [hid] at h
    cases h
  | ok id =>
    simp only [hid] at h
    split at h
    · next hfits => exact .inr ⟨hfits, id, rfl, (Except.ok.inj h).symm⟩
    · cases h

end Gate
end Fields

/-! Answers. -/

namespace Engine
variable {secret : Secret} {levels : LevelTable} {clock : Clock} {request : Request}

theorem answer_get (h : request.method = .get) : (answer secret levels clock request).1 = .ok () := by
  rw [answer, h]
  cases (levels.entry request.identity.level).policy <;> rfl

theorem mem_solutionCauses_of_answer (h : request.method ≠ .other) {cause : Rejection}
    (hcause : (answer secret levels clock request).1 = .error cause) :
    cause ∈ Session.solutionCauses := by
  revert hcause
  rw [answer]
  split
  · intro herror
    cases herror
  · intro herror
    cases herror
  · split
    · next hfirst =>
      intro herror
      cases herror
      exact Session.mem_solutionCauses hfirst
    · intro herror
      cases herror
  · next hother => exact absurd hother h

/-- A token is left by every run that goes well, but by no challenge. -/
theorem token_answer_ne_nil_iff (h : request.method ≠ .other) :
    (answer secret levels clock request).2.token.readable ≠ [] ↔
      (answer secret levels clock request).1 = .ok () ∧
        ¬((levels.entry request.identity.level).policy = .proofOfWork ∧ request.method = .get) := by
  have hsigned : ∀ expires, Token.signed secret.bytes request.identity expires ≠ [] := fun expires => by
    rw [← List.length_pos_iff, Token.length_signed]
    decide
  have hblank : Response.blank.token.readable = [] := rfl
  rw [answer]
  cases hpolicy : (levels.entry request.identity.level).policy with
  | none => simp [hsigned]
  | proofOfWork =>
    cases hmethod : request.method with
    | get => simp
    | post =>
      cases firstUnmet (Challenge.requirements secret.bytes clock.now request.identity request.body) with
      | error cause => simp [hblank]
      | ok passed => simp [hsigned]
    | other => exact absurd hmethod h

end Engine

namespace Answer

theorem isSome_token_ofRun (policy : Policy) (outcome : Outcome) (response : Response) :
    (ofRun policy outcome response).token.isSome ↔ response.token.readable ≠ [] := by
  rw [ofRun]
  cases response.token.readable <;> simp

/-- All that can be answered to a method under the policy of a level. -/
structure Suits (policy : Policy) (method : Bytes) (a : Answer) : Prop where
  cause : ∀ r, a.outcome = .error r → r ∈ Engine.Session.solutionCauses
  get : method = Bytes.ofText "GET" → a.outcome = .ok ()
  token_iff : a.token.isSome ↔
    a.outcome = .ok () ∧ ¬(policy = .proofOfWork ∧ method = Bytes.ofText "GET")
  length_token : ∀ token, a.token = some token → token.length = 84

end Answer

namespace Frontend

theorem verdict_eq_gate (secret : Secret) (clock : Clock) (fields : Fields) (cookie : Bytes) :
    verdict secret clock fields cookie = fields.gate True .disabled fun id =>
      .ofOutcome (firstUnmet (Token.requirements secret.bytes clock.now id cookie)) := by
  rw [verdict, Fields.gate]
  cases fields.identity <;> simp only [if_true]

theorem reply_eq_gate (secret : Secret) (levels : LevelTable) (clock : Clock) (fields : Fields)
    (method body : Bytes) :
    reply secret levels clock fields method body = fields.gate (Method.Named method) none fun id =>
      some (.ofRun (levels.entry fields.level).policy
        (Engine.answer secret levels clock ⟨Method.ofBytes method, body, id⟩).1
        (Engine.answer secret levels clock ⟨Method.ofBytes method, body, id⟩).2) := by
  have hother := Method.ofBytes_eq_other_iff method
  rw [reply, Fields.gate]
  cases fields.identity with
  | error fault => rfl
  | ok id =>
    by_cases hnamed : Method.Named method
    · cases hm : Method.ofBytes method with
      | other => exact absurd hnamed (hother.mp hm)
      | get => simp only [if_pos hnamed]
      | post => simp only [if_pos hnamed]
    · simp only [hother.mpr hnamed, if_neg hnamed]

theorem mem_tokenCauses_of_verdict {secret : Secret} {clock : Clock} {fields : Fields}
    {cookie : Bytes} {cause : Rejection}
    (h : verdict secret clock fields cookie = .ok (.invalid cause)) :
    cause ∈ Engine.Session.tokenCauses := by
  rw [verdict_eq_gate] at h
  rcases Fields.of_gate_eq_ok h with hoff | ⟨-, id, -, htold⟩
  · cases hoff
  · cases hfirst : firstUnmet (Token.requirements secret.bytes clock.now id cookie) with
    | ok passed =>
      rw [hfirst] at htold
      cases htold
    | error cause' =>
      rw [hfirst] at htold
      cases htold
      exact Engine.Session.mem_tokenCauses hfirst

theorem suits_reply {secret : Secret} {levels : LevelTable} {clock : Clock} {fields : Fields}
    {method body : Bytes} {answer : Answer}
    (h : reply secret levels clock fields method body = .ok (some answer)) :
    answer.Suits (levels.entry fields.level).policy method := by
  have hlength : ∀ token, answer.token = some token → token.length = 84 := fun token htoken => by
    obtain ⟨id, -, -, rfl⟩ := reply_token h htoken
    exact Token.length_signed ..
  rw [reply_eq_gate] at h
  rcases Fields.of_gate_eq_ok h with hoff | ⟨hnamed, id, hid, htold⟩
  · cases hoff
  obtain rfl := Option.some.inj htold
  have hmethod : Method.ofBytes method ≠ .other :=
    fun hother => (Method.ofBytes_eq_other_iff method).mp hother hnamed
  refine ⟨fun r => Engine.mem_solutionCauses_of_answer hmethod,
    fun hget => Engine.answer_get ((Method.ofBytes_eq_get_iff method).mpr hget), ?_, hlength⟩
  rw [Answer.isSome_token_ofRun, Engine.token_answer_ne_nil_iff hmethod, Fields.level_identity hid,
    Method.ofBytes_eq_get_iff]
  rfl

namespace Ready
variable {secret : Secret} {f : Frontend}

/-- Behind the gate of a token check stands the engine's own verdict. -/
theorem gated_validate (h : f.Ready secret) (clock : Clock) (fields : Fields) (cookie : Bytes) :
    fields.Gated True .disabled (fun id => .ofOutcome (f.engine.verify clock id cookie).1)
      (f.validate clock fields cookie).1 := by
  have hasked : (fun id => Verdict.ofOutcome (f.engine.verify clock id cookie).1) =
      fun id => .ofOutcome (firstUnmet (Token.requirements secret.bytes clock.now id cookie)) := by
    funext id
    obtain ⟨e, hverify, -⟩ := Engine.Ready.verify h clock id cookie
    rw [hverify]
  obtain ⟨f', hcall, -, -⟩ := h.validate clock fields cookie
  rw [hasked, hcall, verdict_eq_gate]
  exact Fields.gated_gate ..

/-- Behind the gate of a policy run stands what the engine does to a new response. -/
theorem gated_challenge (h : f.Ready secret) (clock : Clock) (fields : Fields)
    (method body : Bytes) :
    fields.Gated (Method.Named method) none
      (fun id => some (.ofRun (f.engine.levels.entry fields.level).policy
        (f.engine.run clock ⟨Method.ofBytes method, body, id⟩ .blank).1
        (f.engine.run clock ⟨Method.ofBytes method, body, id⟩ .blank).2.1))
      (f.challenge clock fields method body).1 := by
  have hrun : ∀ id,
      (f.engine.run clock ⟨Method.ofBytes method, body, id⟩ .blank).1 =
        (Engine.answer secret f.engine.levels clock ⟨Method.ofBytes method, body, id⟩).1 ∧
      (f.engine.run clock ⟨Method.ofBytes method, body, id⟩ .blank).2.1 =
        (Engine.answer secret f.engine.levels clock ⟨Method.ofBytes method, body, id⟩).2 := by
    intro id
    obtain ⟨e, hanswer, -⟩ :=
      Engine.Ready.run h clock ⟨Method.ofBytes method, body, id⟩ Response.sound_blank
    rw [hanswer]
    exact ⟨rfl, rfl⟩
  obtain ⟨f', hcall, -, -⟩ := h.challenge clock fields method body
  simp only [hrun]
  rw [hcall, reply_eq_gate]
  exact Fields.gated_gate ..

end Ready

/-- The frontend of an engine that was built for a secret and a table and then answered some
calls. -/
def reached (name : String) (secret : Secret) (levels : LevelTable) (start : Clock)
    (calls : List Engine.Session.Op) : Frontend :=
  ⟨name, (Engine.Session.reached secret levels start calls).engine⟩

end Frontend

namespace Engine.Session

theorem reached_append (secret : Secret) (levels : LevelTable) (clock : Clock) (calls more : List Op) :
    reached secret levels clock (calls ++ more) = (reached secret levels clock calls).run more :=
  List.foldl_append

/-- A run on a response that is lent for it and given back. -/
theorem engine_run_lent (s : Session) {slot : Nat} (hfree : s.lending.object? slot = none)
    (request : Request) {outcome : Outcome} {response : Response} {e : Engine}
    (hrun : Engine.run
      { s.engine with bench := { s.engine.bench with responses := s.engine.bench.responses.acquire.2 } }
      s.clock request s.engine.bench.responses.acquire.1 = (outcome, response, e)) :
    (s.run [.acquire slot, .run slot request, .release slot]).engine =
      { e with bench := { e.bench with responses := e.bench.responses.release response } } := by
  -- The session after each of the three calls.
  let lent : Session := s.withLending (s.lending.acquire slot)
  let ran : Session := { lent with
    engine := e
    held := (slot, response) :: lent.lending.without slot }
  have hlent : lent.engine = { s.engine with bench :=
      { s.engine.bench with responses := s.engine.bench.responses.acquire.2 } } := by
    simp only [lent, withLending, Lending.acquire, hfree]
    rfl
  have hobject : lent.lending.object? slot = some s.engine.bench.responses.acquire.1 :=
    (s.lending.object?_acquire slot slot).trans (if_pos rfl)
  have hran : (lent.apply (.run slot request)).2 = ran := by
    rw [← hlent, show s.clock = lent.clock from rfl] at hrun
    simp only [apply, hobject, hrun]
    rfl
  have hback : ran.lending.object? slot = some response :=
    (lent.lending.lookup_held_cons slot slot response).trans (if_pos rfl)
  show ((lent.apply (.run slot request)).2.apply (.release slot)).2.engine = _
  rw [hran]
  simp only [apply, withLending, Lending.release, hback]
  rfl

theorem exists_free (s : Session) : ∃ slot, s.lending.object? slot = none := by
  obtain ⟨slot, hslot⟩ := Infinite.exists_notMem_finset s.lending.slots.toFinset
  exact ⟨slot, (s.lending.object?_eq_none_iff slot).mpr fun hmem => hslot (List.mem_toFinset.mpr hmem)⟩

end Engine.Session

namespace Frontend
variable (name : String) (secret : Secret) (levels : LevelTable) (start : Clock)
  (calls : List Engine.Session.Op) (clock : Clock) (fields : Fields)

theorem validate_reached (cookie : Bytes) : ∃ more,
    ((reached name secret levels start calls).validate clock fields cookie).2 =
      reached name secret levels start (calls ++ more) := by
  have hnone : reached name secret levels start calls =
      reached name secret levels start (calls ++ []) := by rw [List.append_nil]
  rw [validate]
  split
  · exact ⟨[], hnone⟩
  cases fields.identity with
  | error fault => exact ⟨[], hnone⟩
  | ok id =>
    refine ⟨[.clock (.set clock.now), .verify id cookie], ?_⟩
    rw [reached, reached, Engine.Session.reached_append]
    rfl

/-- A policy run of a frontend is a run of its engine on a response that is lent for it. -/
theorem challenge_reached (method body : Bytes) : ∃ more,
    ((reached name secret levels start calls).challenge clock fields method body).2 =
      reached name secret levels start (calls ++ more) := by
  have hnone : reached name secret levels start calls =
      reached name secret levels start (calls ++ []) := by rw [List.append_nil]
  rw [challenge]
  split
  · exact ⟨[], hnone⟩
  cases fields.identity with
  | error fault => exact ⟨[], hnone⟩
  | ok id =>
    let s := ((Engine.Session.reached secret levels start calls).apply (.clock (.set clock.now))).2
    obtain ⟨slot, hfree⟩ := s.exists_free
    have hlent : ∀ m, reached name secret levels start
        (calls ++ [.clock (.set clock.now), .acquire slot, .run slot ⟨m, body, id⟩, .release slot]) =
        ⟨name, (s.run [.acquire slot, .run slot ⟨m, body, id⟩, .release slot]).engine⟩ := fun m => by
      rw [reached, Engine.Session.reached_append]
      rfl
    cases Method.ofBytes method with
    | other => exact ⟨[], hnone⟩
    | get =>
      refine ⟨_, Eq.trans ?_ (hlent .get).symm⟩
      rw [s.engine_run_lent hfree ⟨.get, body, id⟩ rfl]
      rfl
    | post =>
      refine ⟨_, Eq.trans ?_ (hlent .post).symm⟩
      rw [s.engine_run_lent hfree ⟨.post, body, id⟩ rfl]
      rfl

theorem ready_reached : (reached name secret levels start calls).Ready secret := by
  have hready := (Engine.Session.sound_reached secret levels start calls).engine
  show Engine.Ready secret (Engine.Session.reached secret levels start calls).engine.levels _
  rwa [hready.levels_eq]

theorem levels_reached : (reached name secret levels start calls).engine.levels = levels :=
  (Engine.Session.sound_reached secret levels start calls).engine.levels_eq

/-- **A frontend gates its engine.** Whatever its engine has answered before and whatever the fields
hold, level 0 switches both calls off; then the first of an address, a host and, for a policy run, a
method that is unusable is told; and otherwise the engine's own result. So a token is refused for
one of six causes only and a policy run for one of five, none of them on a GET, and a token of 84
bytes comes with every good outcome but that of a challenge. Either call leaves a frontend whose
engine has answered some more calls, so that all this holds of every frontend after any use. -/
theorem gates_engine :
    (∀ cookie,
      fields.Gated True .disabled
          (fun id => .ofOutcome
            ((reached name secret levels start calls).engine.verify clock id cookie).1)
          ((reached name secret levels start calls).validate clock fields cookie).1 ∧
        (∀ cause, ((reached name secret levels start calls).validate clock fields cookie).1 =
          .ok (.invalid cause) → cause ∈ Engine.Session.tokenCauses) ∧
        ∃ more, ((reached name secret levels start calls).validate clock fields cookie).2 =
          reached name secret levels start (calls ++ more)) ∧
    ∀ method body,
      fields.Gated (Method.Named method) none
          (fun id => some (.ofRun (levels.entry fields.level).policy
            ((reached name secret levels start calls).engine.run clock
              ⟨Method.ofBytes method, body, id⟩ .blank).1
            ((reached name secret levels start calls).engine.run clock
              ⟨Method.ofBytes method, body, id⟩ .blank).2.1))
          ((reached name secret levels start calls).challenge clock fields method body).1 ∧
        (∀ answer, ((reached name secret levels start calls).challenge clock fields method body).1 =
          .ok (some answer) → answer.Suits (levels.entry fields.level).policy method) ∧
        ∃ more, ((reached name secret levels start calls).challenge clock fields method body).2 =
          reached name secret levels start (calls ++ more) := by
  have hready := ready_reached name secret levels start calls
  have hlevels := levels_reached name secret levels start calls
  refine ⟨fun cookie => ⟨hready.gated_validate clock fields cookie, fun cause htold => ?verdict,
      validate_reached name secret levels start calls clock fields cookie⟩,
    fun method body => ⟨?gate, fun answer htold => ?answer,
      challenge_reached name secret levels start calls clock fields method body⟩⟩
  case verdict =>
    obtain ⟨f, hcall, -, -⟩ := hready.validate clock fields cookie
    rw [hcall] at htold
    exact mem_tokenCauses_of_verdict htold
  case gate =>
    have hgated := hready.gated_challenge clock fields method body
    rwa [hlevels] at hgated
  case answer =>
    obtain ⟨f, hcall, -, -⟩ := hready.challenge clock fields method body
    rw [hcall, hlevels] at htold
    exact suits_reply htold

end Frontend
end Passage
