import Passage.Challenge
import Passage.Pool.Resources
import Passage.Request
import Passage.Secret
import Passage.Time

/- An engine issues and checks tokens with one secret and one table of levels.

   It keeps nothing about its clients. Its bench only holds reset objects for
   reuse, so that what it answers depends on the call and the clock alone.
   Every call gives back what it borrowed, on each way out. -/
namespace Passage

/-- The pools an engine works with. -/
structure Bench where
  keyed : Pool Hmac.Stream
  plain : Pool Sha256.Stream
  scratch : Pool Buffer
  responses : Pool Response

/-- Room for decoded fields. -/
abbrev scratchCapacity : Nat := 128

def Bench.ofSecret (secret : Secret) : Bench where
  keyed := .ofMake fun _ => .keyed secret.bytes
  plain := .ofMake fun _ => .start
  scratch := .ofMake fun _ => .ofCapacity scratchCapacity
  responses := .ofMake fun _ => .blank

structure Engine where
  secret : Secret
  levels : LevelTable
  bench : Bench

/-- What becomes of a call that wrote, or did not fit. -/
def Shortage.outcome : Except Shortage Unit → Outcome
  | .ok () => .ok ()
  | .error shortage => .error shortage.rejection

namespace Engine

def build (secret : Secret) (levels : LevelTable) : Engine := ⟨secret, levels, .ofSecret secret⟩

/-! ## Borrowed work -/

/-- The tag of pieces under the engine's secret. -/
def sign (e : Engine) (pieces : List Bytes) : Bytes × Engine :=
  let (tag, keyed) := e.bench.keyed.lend fun mac => (pieces.foldl .absorb mac).finish
  (tag, { e with bench := { e.bench with keyed } })

/-- The digest of pieces. -/
def digest (e : Engine) (pieces : List Bytes) : Bytes × Engine :=
  let (value, plain) := e.bench.plain.lend fun sha => (pieces.foldl .absorb sha).finish
  (value, { e with bench := { e.bench with plain } })

/-- The hexadecimal form of bytes, written into scratch room. -/
def spell (e : Engine) (bs : Bytes) : Except Shortage Bytes × Engine :=
  let (text, scratch) := e.bench.scratch.lend fun room =>
    match room.write (Hex.encode bs) with
    | .error shortage => (.error shortage, room)
    | .ok room => (.ok room.readable, room)
  (text, { e with bench := { e.bench with scratch } })

/-! ## Tokens -/

/-- Appends a token for `id` to `out`, good for `lifetime` from now. What does not fit is left out
    from the first field or separator on that is too long. -/
def issue (e : Engine) (clock : Clock) (id : Identity) (lifetime : Duration) (out : Buffer) :
    Outcome × Buffer × Engine :=
  let expiry := LittleEndian.encode 8 (clock.expiresAt lifetime)
  let (tag, e) := e.sign [id.material, expiry]
  let (result, out) := out.writeAll (Token.pieces id.level expiry tag)
  (Shortage.outcome result, out, e)

/-- Checks a token for `id`. -/
def verify (e : Engine) (clock : Clock) (id : Identity) (token : Bytes) : Outcome × Engine :=
  if token.isEmpty then (.error .empty, e)
  else if token.length ≠ Token.size then (.error .invalidLength, e)
  else
    let (room, scratch) := e.bench.scratch.acquire
    let (mac, keyed) := e.bench.keyed.acquire
    let (outcome, desk) := (Token.check clock.unixSeconds id).run.run ⟨mac, room, .ofBytes token⟩
    (outcome, { e with bench := { e.bench with
      keyed := keyed.release desk.mac
      scratch := scratch.release desk.scratch } })

/-! ## Policies -/

/-- Writes a challenge for `id`. -/
def challenge (e : Engine) (clock : Clock) (id : Identity) (level : Level) (body : Buffer) :
    Outcome × Buffer × Engine :=
  let nonce := Hex.encode (LittleEndian.encode 8 (clock.expiresAt level.lifetime))
  let (proof, e) := e.sign [id.material, nonce]
  let (result, body) := body.writeAll (Challenge.body level.countdown nonce proof)
  (Shortage.outcome result, body, e)

/-- Checks the solution in `body`: its form, its proof, its time, then its work. -/
def checkSolution (e : Engine) (clock : Clock) (id : Identity) (body : Bytes) : Outcome × Engine :=
  if body.length ≤ Challenge.headSize then (.error .invalidLength, e)
  else
    match Challenge.Solution.ofBody body with
    | .error r => (.error r, e)
    | .ok s =>
      let (expected, e) := e.sign [id.material, s.nonce]
      match e.spell expected with
      | (.error shortage, e) => (.error shortage.rejection, e)
      | (.ok proof, e) =>
        if proof ≠ s.proof then (.error .invalidHmac, e)
        else
          match Hex.decodeExactly? 8 s.nonce with
          | none => (.error .malformed, e)
          | some expiry =>
            if clock.unixSeconds > LittleEndian.decode expiry then (.error .expired, e)
            else if !s.isNumber then (.error .invalidSolution, e)
            else
              let (work, e) := e.digest [s.nonce, s.number]
              (if Challenge.meetsDifficulty work then .ok () else .error .invalidSolution, e)

/-- Lets everybody pass: a short body and a token. -/
def pass (e : Engine) (clock : Clock) (id : Identity) (level : Level) (response : Response) :
    Outcome × Response × Engine :=
  match response.body.writeAll (Challenge.passBody level.countdown) with
  | (.error shortage, body) => (.error shortage.rejection, { response with body }, e)
  | (.ok (), body) =>
    let (outcome, token, e) := e.issue clock id level.lifetime response.token
    (outcome, ⟨body, token⟩, e)

/-- Runs the policy of the requested level and fills the response, which is reset first. -/
def run (e : Engine) (clock : Clock) (request : Request) (response : Response) :
    Outcome × Response × Engine :=
  let response := response.reset
  let id := request.identity
  let level := e.levels.entry id.level
  match level.policy, request.method with
  | .none, _ => e.pass clock id level response
  | .proofOfWork, .get =>
    let (outcome, body, e) := e.challenge clock id level response.body
    (outcome, { response with body }, e)
  | .proofOfWork, .post =>
    match e.checkSolution clock id request.body with
    | (.error r, e) => (.error r, response, e)
    | (.ok (), e) =>
      let (outcome, token, e) := e.issue clock id level.lifetime response.token
      (outcome, { response with token }, e)
  | .proofOfWork, .other => (.error .invalidMethod, response, e)

end Engine
end Passage
