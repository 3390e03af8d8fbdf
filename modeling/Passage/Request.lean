import Passage.Buffer
import Passage.Identity
import Passage.Pool
import Passage.Token

/- What runs a level's policy: a request, and the response that it fills. -/
namespace Passage

inductive Method where
  /-- Asks for a challenge. -/
  | get
  /-- Brings a solution. -/
  | post
  | other
  deriving DecidableEq, Repr

/-- The method of a name, which is spelled exactly. -/
def Method.ofBytes (raw : Bytes) : Method :=
  if raw = Bytes.ofText "GET" then .get
  else if raw = Bytes.ofText "POST" then .post
  else .other

structure Request where
  method : Method
  body : Bytes
  identity : Identity
  deriving DecidableEq, Repr

/-- A body for the client and, once it has passed, a token. -/
structure Response where
  body : Buffer
  token : Buffer
  deriving DecidableEq, Repr

namespace Response

/-- Room for a body. -/
abbrev bodyCapacity : Nat := 256

def blank : Response := ⟨.ofCapacity bodyCapacity, .ofCapacity Token.size⟩

def reset (r : Response) : Response := ⟨r.body.clear, r.token.clear⟩

end Response

instance : Reusable Response := ⟨Response.reset⟩

end Passage
