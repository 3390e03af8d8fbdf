import Passage.Proofs.Nanoseconds
import Passage.Proofs.Places
import Passage.Proofs.Readiness
import Passage.Proofs.Requirements

/- A check of a solution comes to what its requirements say.

   `Challenge.requirements` names what a body must meet by the places of its bytes.
   The proof is compared before the nonce is known to be hexadecimal, so the tag is
   taken of whatever sixteen bytes stand there. -/
namespace Passage

namespace Challenge

/-- What a solution's body must meet for an identity under a key, in the order in which it is
noticed. -/
def requirements (key : Bytes) (now : Instant) (id : Identity) (body : Bytes) : List Requirement :=
  let nonce := body.extract 0 16
  let number := body.drop 82
  [⟨82 < body.length, .invalidLength⟩,
   ⟨body[16]? = some separator ∧ body[81]? = some separator, .malformed⟩,
   ⟨body.extract 17 81 =
      Hex.encode (Hmac.tag key (id.host ++ id.address.octets ++ [id.level] ++ nonce)), .invalidHmac⟩,
   ⟨Hex.IsLower nonce, .malformed⟩,
   ⟨max 0 (now.toNanos / (billion : Int)) ≤ LittleEndian.decode (Hex.bytes nonce), .expired⟩,
   ⟨number.length ≤ 20 ∧ number.all Bytes.isDigit = true ∧
      (Sha256.digest (nonce ++ number)).take 2 = [0, 0], .invalidSolution⟩]

theorem ofBody_eq {body : Bytes} (h : 82 < body.length) : Solution.ofBody body =
    if body[16]? = some separator ∧ body[81]? = some separator then
      .ok ⟨body.extract 0 16, body.extract 17 81, body.drop 82⟩
    else .error .malformed := by
  rw [Solution.ofBody, Cursor.ofBytes, Cursor.take_of_le (by show 0 + 16 ≤ _; omega)]
  simp only
  rw [Cursor.separator_of_lt separator (by show 0 + 16 < _; omega)]
  by_cases h1 : body[16]? = some separator
  · rw [show body[0 + nonceDigits]? = body[16]? from rfl, if_pos h1]
    simp only
    rw [Cursor.take_of_le (by show 0 + 16 + 1 + 64 ≤ _; omega)]
    simp only
    rw [Cursor.separator_of_lt separator (by show 0 + 16 + 1 + 64 < _; omega)]
    rw [show body[0 + nonceDigits + 1 + proofDigits]? = body[81]? from rfl]
    by_cases h2 : body[81]? = some separator
    · rw [if_pos h2, if_pos ⟨h1, h2⟩]
      rfl
    · rw [if_neg h2, if_neg (fun h => h2 h.2)]
  · rw [show body[0 + nonceDigits]? = body[16]? from rfl, if_neg h1, if_neg (fun h => h1 h.1)]

/-- The target: two zero bytes in front. -/
theorem meetsDifficulty_iff (digest : Bytes) :
    meetsDifficulty digest = true ↔ digest.take 2 = [0, 0] := by
  match digest with
  | [] => decide
  | [_] => simp [meetsDifficulty, zeroBytes]
  | a :: b :: rest => simp [meetsDifficulty, zeroBytes]

/-- A number of the right form whose digest meets the target. -/
theorem solved_iff (s : Solution) :
    (s.isNumber = true ∧ meetsDifficulty (Sha256.digest (s.nonce ++ s.number)) = true) ↔
      s.number.length ≤ 20 ∧ s.number.all Bytes.isDigit = true ∧
        (Sha256.digest (s.nonce ++ s.number)).take 2 = [0, 0] := by
  rw [meetsDifficulty_iff]
  rw [Solution.isNumber, Bool.and_eq_true, decide_eq_true_iff, and_assoc]

end Challenge

namespace Engine.Ready
variable {secret : Secret} {levels : LevelTable} {e : Engine}

theorem checkSolution (h : e.Ready secret levels) (clock : Clock) (id : Identity) (body : Bytes) :
    Gives secret levels (e.checkSolution clock id body)
      (firstUnmet (Challenge.requirements secret.bytes clock.now id body)) := by
  rw [Engine.checkSolution]
  refine Gives.require (fun hl => ?_) fun hl => ?_
  · rw [if_pos (show body.length ≤ Challenge.headSize from Nat.not_lt.mp hl)]
    exact ⟨e, rfl, h⟩
  rw [if_neg (show ¬body.length ≤ Challenge.headSize from Nat.not_le.mpr hl), Challenge.ofBody_eq hl]
  refine Gives.require (fun hs => ?_) fun hs => ?_
  · rw [if_neg hs]
    exact ⟨e, rfl, h⟩
  rw [if_pos hs]
  obtain ⟨e₁, hsign, h₁⟩ := h.sign_pair id.material (body.extract 0 16)
  rw [show id.material ++ body.extract 0 16 =
    id.host ++ id.address.octets ++ [id.level] ++ body.extract 0 16 from rfl] at hsign
  obtain ⟨e₂, hspell, h₂⟩ := h₁.spell_tag
    (id.host ++ id.address.octets ++ [id.level] ++ body.extract 0 16)
  simp only [hsign, hspell]
  refine Gives.require (fun hp => ?_) fun hp => ?_
  · rw [if_pos (Ne.symm hp)]
    exact ⟨e₂, rfl, h₂⟩
  rw [if_neg (not_not_intro hp.symm), Hex.decodeExactly?_eq, Bytes.length_extract (by omega)]
  refine Gives.require (fun hx => ?_) fun hx => ?_
  · rw [if_neg (fun hh => hx hh.2)]
    exact ⟨e₂, rfl, h₂⟩
  rw [if_pos ⟨rfl, hx⟩, ← Clock.unixSeconds_eq]
  simp only
  refine Gives.require (fun ht => ?_) fun ht => ?_
  · rw [if_pos (by omega)]
    exact ⟨e₂, rfl, h₂⟩
  rw [if_neg (by omega)]
  have hw := Challenge.solved_iff ⟨body.extract 0 16, body.extract 17 81, body.drop 82⟩
  -- The number's form and its work fail for one cause, so the digest is looked at only behind
  -- the form.
  cases hn : Challenge.Solution.isNumber ⟨body.extract 0 16, body.extract 17 81, body.drop 82⟩ with
  | false =>
    rw [hn] at hw
    exact Gives.require (fun _ => ⟨e₂, rfl, h₂⟩) fun hd => absurd (hw.mpr hd).1 Bool.false_ne_true
  | true =>
    rw [hn] at hw
    obtain ⟨e₃, hdig, h₃⟩ := h₂.digest_pair (body.extract 0 16) (body.drop 82)
    simp only [Bool.not_true, Bool.false_eq_true, if_false, hdig]
    refine Gives.require (fun hd => ?_) fun hd => ?_
    · rw [if_neg (fun hm => hd (hw.mp ⟨rfl, hm⟩))]
      exact ⟨e₃, rfl, h₃⟩
    · rw [if_pos (hw.mpr hd).2]
      exact ⟨e₃, rfl, h₃⟩

end Engine.Ready
end Passage
