/- Why a token or a solution is refused.

   Every cause is local to one request: the caller asks the client again,
   answers with an error or drops the request. `code` is stable and tells
   the causes apart; `message` is for people. -/
namespace Passage

inductive Rejection where
  /-- No token was presented. -/
  | empty
  /-- A token or a solution has the wrong number of bytes. -/
  | invalidLength
  /-- The token was granted for a lower level than the requested one. -/
  | levelTooLow
  /-- The embedded expiry has passed. -/
  | expired
  /-- The signature is not the recomputed one. -/
  | invalidHmac
  /-- The solution is no number, or the work falls short of the target. -/
  | invalidSolution
  /-- The method is not one a challenge can be run with. -/
  | invalidMethod
  /-- The policy's name is not a known one. -/
  | unknownPolicy
  /-- A field is not lowercase hexadecimal, or a separator is missing. -/
  | malformed
  /-- A buffer has no room for what is written. -/
  | bufferOverflow
  deriving DecidableEq, Repr

namespace Rejection

def all : List Rejection :=
  [.empty, .invalidLength, .levelTooLow, .expired, .invalidHmac, .invalidSolution,
    .invalidMethod, .unknownPolicy, .malformed, .bufferOverflow]

def message : Rejection → String
  | empty => "empty"
  | invalidLength => "invalid length"
  | levelTooLow => "cookie level too low"
  | expired => "expired"
  | invalidHmac => "invalid hmac"
  | invalidSolution => "invalid solution"
  | invalidMethod => "invalid method"
  | unknownPolicy => "unknown validation type"
  | malformed => "malformed encoding"
  | bufferOverflow => "scratch buffer overflow"

/-- The machine-readable name, fit for a metric's label. -/
def code : Rejection → String
  | empty => "BERGHAIN_TOKEN_EMPTY"
  | invalidLength => "BERGHAIN_INVALID_LENGTH"
  | levelTooLow => "BERGHAIN_LEVEL_TOO_LOW"
  | expired => "BERGHAIN_EXPIRED"
  | invalidHmac => "BERGHAIN_INVALID_HMAC"
  | invalidSolution => "BERGHAIN_INVALID_SOLUTION"
  | invalidMethod => "BERGHAIN_INVALID_METHOD"
  | unknownPolicy => "BERGHAIN_UNKNOWN_VALIDATION_TYPE"
  | malformed => "BERGHAIN_MALFORMED"
  | bufferOverflow => "BERGHAIN_BUFFER_OVERFLOW"

/-- Points at altered input, not at a stale or missing token. -/
def tampering : Rejection → Bool
  | invalidHmac | malformed => true
  | _ => false

/-- The normal state of a client that has not been checked yet. -/
def benign : Rejection → Bool
  | empty => true
  | _ => false

/-- The client should go through its challenge again. -/
def revalidate : Rejection → Bool
  | empty | levelTooLow | expired => true
  | _ => false

end Rejection

/-- The answer of a check: passed, or the cause of its refusal. -/
abbrev Outcome := Except Rejection Unit

/-- A request for more bytes than there are, written or read. -/
inductive Shortage where
  /-- More bytes to write than cells left. -/
  | overflow (requested remaining : Nat)
  /-- More bytes to read than bytes left. -/
  | underflow (requested remaining : Nat)
  deriving DecidableEq, Repr

namespace Shortage

def requested : Shortage → Nat
  | overflow n _ | underflow n _ => n

def remaining : Shortage → Nat
  | overflow _ r | underflow _ r => r

def message : Shortage → String
  | overflow n r => s!"write of {n} bytes exceeds remaining capacity {r}"
  | underflow n r => s!"read of {n} bytes exceeds remaining data {r}"

/-- What a client is told when a shortage ends its request. -/
def rejection : Shortage → Rejection
  | overflow .. => .bufferOverflow
  | underflow .. => .malformed

end Shortage

end Passage
