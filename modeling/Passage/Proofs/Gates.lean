import Passage.Proofs.Sessions

/- What lets a client through, in every session.

   1. A token passes if it meets the requirements of `Token.requirements` and is
      refused for the first that it does not meet. No other cause is ever told; above
      all no check runs out of room.
   2. Where a level asks for work, a solution is answered with a token if it meets the
      requirements of `Challenge.requirements` and is refused for the first that it
      does not meet. A refusal leaves the response blank, so no byte of a token is
      written before the last check has passed.

   Both hold after any calls, refused ones among them, and whatever the response in the
   caller's hand was used for before. -/
namespace Passage.Engine.Session

def tokenCauses : List Rejection :=
  [.empty, .invalidLength, .malformed, .levelTooLow, .expired, .invalidHmac]

def solutionCauses : List Rejection :=
  [.invalidLength, .malformed, .invalidHmac, .expired, .invalidSolution]

theorem mem_tokenCauses {key token : Bytes} {now : Instant} {id : Identity} {r : Rejection}
    (h : firstUnmet (Token.requirements key now id token) = .error r) : r ∈ tokenCauses := by
  have hr := firstUnmet_cause h
  simp only [Token.requirements, List.map_cons, List.map_nil, List.mem_cons, List.not_mem_nil,
    or_false] at hr
  rcases hr with rfl | rfl | rfl | rfl | rfl | rfl | rfl | rfl | rfl | rfl <;> decide

theorem mem_solutionCauses {key body : Bytes} {now : Instant} {id : Identity} {r : Rejection}
    (h : firstUnmet (Challenge.requirements key now id body) = .error r) : r ∈ solutionCauses := by
  have hr := firstUnmet_cause h
  simp only [Challenge.requirements, List.map_cons, List.map_nil, List.mem_cons, List.not_mem_nil,
    or_false] at hr
  rcases hr with rfl | rfl | rfl | rfl | rfl | rfl <;> decide

/-- **A token is refused for the first requirement that it does not meet.** -/
theorem verified_in_order (secret : Secret) (levels : LevelTable) (clock : Clock)
    (calls : List Op) (id : Identity) (token : Bytes) :
    ∃ outcome, ((reached secret levels clock calls).apply (.verify id token)).1 = .verified outcome ∧
      DecidedBy (Token.requirements secret.bytes (reached secret levels clock calls).clock.now id
        token) outcome ∧
      ∀ r, outcome = .error r → r ∈ tokenCauses :=
  ⟨_, (sound_reached secret levels clock calls).reply_verify id token, decidedBy_firstUnmet _,
    fun _ => mem_tokenCauses⟩

/-- What a solution is answered where a level asks for work. -/
theorem answer_solution {levels : LevelTable} {id : Identity}
    (hpow : (levels.entry id.level).policy = .proofOfWork) (secret : Secret) (clock : Clock)
    (body : Bytes) :
    answer secret levels clock ⟨.post, body, id⟩ =
      match firstUnmet (Challenge.requirements secret.bytes clock.now id body) with
      | .error r => (.error r, .blank)
      | .ok () => (.ok (), .wrote [] (Token.signed secret.bytes id
          (clock.expiresAt (levels.entry id.level).lifetime))) := by
  cases hfirst : firstUnmet (Challenge.requirements secret.bytes clock.now id body) <;>
    simp only [answer, hpow, hfirst]

/-- **Work is asked for before a token is written.** -/
theorem granted_in_order (secret : Secret) (levels : LevelTable) (clock : Clock)
    (calls : List Op) (slot : Nat) (id : Identity) (body : Bytes)
    (hpow : (levels.entry id.level).policy = .proofOfWork)
    (hheld : ((reached secret levels clock calls).lending.object? slot).isSome) :
    ∃ outcome response,
      ((reached secret levels clock calls).apply (.run slot ⟨.post, body, id⟩)).1 =
        .ran outcome response ∧
      DecidedBy (Challenge.requirements secret.bytes (reached secret levels clock calls).clock.now id
        body) outcome ∧
      (∀ r, outcome = .error r → r ∈ solutionCauses ∧ response = .blank) ∧
      (outcome = .ok () → response.body.readable = [] ∧
        response.token.readable = Token.signed secret.bytes id
          ((reached secret levels clock calls).clock.expiresAt (levels.entry id.level).lifetime)) := by
  have hreply := (sound_reached secret levels clock calls).reply_run slot ⟨.post, body, id⟩
  rw [if_pos hheld, answer_solution hpow] at hreply
  generalize (reached secret levels clock calls).clock = now at hreply ⊢
  have hdecided := decidedBy_firstUnmet (Challenge.requirements secret.bytes now.now id body)
  cases hfirst : firstUnmet (Challenge.requirements secret.bytes now.now id body) with
  | error r =>
    rw [hfirst] at hreply hdecided
    refine ⟨_, _, hreply, hdecided, ?_, ?_⟩
    · intro r' hr
      cases hr
      exact ⟨mem_solutionCauses hfirst, rfl⟩
    · intro hok
      cases hok
  | ok u =>
    rw [hfirst] at hreply hdecided
    refine ⟨_, _, hreply, hdecided, ?_, ?_⟩
    · intro r' hr
      cases hr
    · intro _
      exact ⟨rfl, by rw [Response.wrote, Buffer.readable_holding, List.drop_zero]⟩

/-- A solved challenge of the small setting. -/
def Sample.solution : Bytes :=
  Challenge.nonce (Sample.clock.expiresAt Sample.hour) ++ Challenge.separator ::
    (Hex.encode (Hmac.tag Sample.secret.bytes (Challenge.message Sample.identity
      (Challenge.nonce (Sample.clock.expiresAt Sample.hour)))) ++
    Challenge.separator :: Bytes.ofText "39469")

/-- The gate can be passed: the solved challenge is answered with a token. -/
theorem granted_for_work : ∃ response,
    ((reached Sample.secret Sample.levels Sample.clock [.acquire 0]).apply
      (.run 0 ⟨.post, Sample.solution, Sample.identity⟩)).1 = .ran (.ok ()) response ∧
    response.token.readable =
      Token.signed Sample.secret.bytes Sample.identity (Sample.clock.expiresAt Sample.hour) := by
  obtain ⟨outcome, response, hreply, hdecided, -, hgranted⟩ :=
    granted_in_order Sample.secret Sample.levels Sample.clock [.acquire 0] 0 Sample.identity
      Sample.solution rfl rfl
  have hok : outcome = .ok () := hdecided.ok_iff.mpr (by decide +kernel)
  rw [hok] at hreply
  exact ⟨response, hreply, (hgranted hok).2⟩

end Passage.Engine.Session
