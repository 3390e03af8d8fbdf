import Passage.Bytes.Hex
import Passage.Cursor
import Passage.Identity
import Passage.Level

/- Challenges and their solutions.

   A challenge's nonce is the hexadecimal form of its own expiry and its proof
   signs identity and nonce, so that nothing of it has to be stored. A
   solution brings `nonce-proof-number` back: with the same proof, in time,
   and with a number of at most 20 digits that makes the digest of nonce and
   number start with two zero bytes. -/
namespace Passage.Challenge

/-- Stands between the parts of a solution. -/
abbrev separator : UInt8 := 45

/-- Digits of a nonce. -/
abbrev nonceDigits : Nat := 16

/-- Digits of a proof. -/
abbrev proofDigits : Nat := 64

/-- A solution is longer than this. -/
abbrev headSize : Nat := nonceDigits + 1 + proofDigits + 1

/-- The most digits a solution's number has. -/
abbrev maxDigits : Nat := 20

/-- Zero bytes that a solution's digest starts with. -/
abbrev zeroBytes : Nat := 2

def meetsDifficulty (digest : Bytes) : Bool :=
  zeroBytes ≤ digest.length && (digest.take zeroBytes).all (· == 0)

/-- What a challenge's proof signs. -/
def message (id : Identity) (nonce : Bytes) : Bytes := id.material ++ nonce

/-! ## Bodies -/

/-- The start of a body: the countdown and the kind of answer. -/
def bodyHead (countdown : Countdown) (kind : UInt8) : List Bytes :=
  [Bytes.ofText "\x7b\"c\": ", [countdown.digit], Bytes.ofText ", \"t\": ", [48 + kind]]

/-- The body that asks for nothing. -/
def passBody (countdown : Countdown) : List Bytes :=
  bodyHead countdown 0 ++ [Bytes.ofText "\x7d"]

/-- The body that asks for a solution. -/
def body (countdown : Countdown) (nonce proof : Bytes) : List Bytes :=
  bodyHead countdown 1 ++
    [Bytes.ofText ", \"r\": \"", nonce, Bytes.ofText "\", \"s\": \"", Hex.encode proof,
      Bytes.ofText "\"\x7d"]

/-! ## Solutions -/

/-- The parts of a solution as the client sent them. -/
structure Solution where
  nonce : Bytes
  proof : Bytes
  number : Bytes
  deriving DecidableEq, Repr

/-- Splits a body at its fixed places. -/
def Solution.ofBody (body : Bytes) : Except Rejection Solution :=
  match (Cursor.ofBytes body).take nonceDigits with
  | .error shortage => .error shortage.rejection
  | .ok (nonce, c) =>
    match c.separator separator with
    | (.error r, _) => .error r
    | (.ok (), c) =>
      match c.take proofDigits with
      | .error shortage => .error shortage.rejection
      | .ok (proof, c) =>
        match c.separator separator with
        | (.error r, _) => .error r
        | (.ok (), c) => .ok ⟨nonce, proof, c.rest.1⟩

/-- Whether a solution's number has the right form. -/
def Solution.isNumber (s : Solution) : Bool :=
  s.number.length ≤ maxDigits && s.number.all Bytes.isDigit

end Passage.Challenge
