import Passage.Bytes.Base64
import Passage.Text

/- The secret that all signatures are made with: 32 bytes. -/
namespace Passage

structure Secret where
  bytes : Bytes
  size_eq : bytes.length = 32
  deriving DecidableEq

namespace Secret

/-- Why a value is no secret. -/
inductive Fault where
  | encoding (fault : Base64.Fault)
  | wrongLength (size : Nat)
  deriving DecidableEq, Repr

def Fault.message : Fault → String
  | encoding fault => "Invalid secret: " ++ fault.message
  | wrongLength size => s!"Invalid secret length: expected 32 bytes, got {size}"

def ofBytes (bs : Bytes) : Except Fault Secret :=
  if h : bs.length = 32 then .ok ⟨bs, h⟩ else .error (.wrongLength bs.length)

/-- Reads a secret from its base64 text; white space around it does not count. -/
def ofBase64 (text : String) : Except Fault Secret :=
  match Base64.decode (Bytes.ofText (String.ofList (Text.trim text.toList))) with
  | .error fault => .error (.encoding fault)
  | .ok bs => ofBytes bs

/-- What is shown of a secret. -/
def describe (_ : Secret) : String := "Secret([REDACTED])"

end Secret
end Passage
