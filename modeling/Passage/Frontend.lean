import Passage.Engine
import Passage.Metrics

/- A frontend answers decoded requests with one engine.

   Level 0 switches it off before anything else is looked at. Otherwise the
   address, the host and the method must be usable, in this order, before the
   engine is asked. -/
namespace Passage

/-- Why a request's fields are not usable. -/
inductive FieldFault where
  | invalidAddress (size : Nat)
  | hostTooLong (size : Nat)
  | unsupportedMethod
  deriving DecidableEq, Repr

def FieldFault.message : FieldFault → String
  | invalidAddress size => s!"invalid source address length {size}"
  | hostTooLong size => s!"host too long: {size} bytes"
  | unsupportedMethod => "unsupported request method"

/-- The longest host, in bytes. -/
abbrev maxHost : Nat := 256

/-- The client and what it asks for, not yet checked. -/
structure Fields where
  level : UInt8
  source : Bytes
  host : Bytes
  deriving DecidableEq, Repr

/-- The identity that fields stand for. -/
def Fields.identity (f : Fields) : Except FieldFault Identity :=
  match Address.ofOctets? f.source with
  | none => .error (.invalidAddress f.source.length)
  | some address =>
    if f.host.length > maxHost then .error (.hostTooLong f.host.length)
    else .ok ⟨address, f.host, f.level⟩

/-- The answer to a token check. -/
inductive Verdict where
  /-- Level 0: nothing was checked. -/
  | disabled
  | valid
  | invalid (r : Rejection)
  deriving DecidableEq, Repr

namespace Verdict

def ofOutcome : Outcome → Verdict
  | .ok () => valid
  | .error r => invalid r

/-- Whether the request may go on. -/
def passes : Verdict → Bool
  | disabled | valid => true
  | invalid _ => false

def label : Verdict → String
  | disabled => disabledLabel
  | valid => outcomeLabel (.ok ())
  | invalid r => outcomeLabel (.error r)

end Verdict

/-- The answer to a policy run. -/
structure Answer where
  /-- The policy that ran. -/
  policy : Policy
  body : Bytes
  token : Option Bytes
  outcome : Outcome

structure Frontend where
  name : String
  engine : Engine

namespace Frontend

/-- The name of the frontend that answers when no other does. -/
def defaultName : String := "default"

/-- Checks the token of a request. -/
def validate (f : Frontend) (clock : Clock) (fields : Fields) (cookie : Bytes) :
    Except FieldFault Verdict × Frontend :=
  if fields.level = 0 then (.ok .disabled, f)
  else
    match fields.identity with
    | .error fault => (.error fault, f)
    | .ok id =>
      let (outcome, engine) := f.engine.verify clock id cookie
      (.ok (.ofOutcome outcome), { f with engine })

/-- Runs the policy of the requested level; there is none for level 0. -/
def challenge (f : Frontend) (clock : Clock) (fields : Fields) (method body : Bytes) :
    Except FieldFault (Option Answer) × Frontend :=
  if fields.level = 0 then (.ok none, f)
  else
    match fields.identity with
    | .error fault => (.error fault, f)
    | .ok identity =>
      match Method.ofBytes method with
      | .other => (.error .unsupportedMethod, f)
      | method =>
        let policy := (f.engine.levels.entry fields.level).policy
        let (response, responses) := f.engine.bench.responses.acquire
        let engine := { f.engine with bench := { f.engine.bench with responses } }
        let (outcome, response, engine) := engine.run clock ⟨method, body, identity⟩ response
        let token := response.token.readable
        let answer : Answer :=
          ⟨policy, response.body.readable, if token.isEmpty then none else some token, outcome⟩
        let responses := engine.bench.responses.release response
        (.ok (some answer), { f with engine := { engine with bench := { engine.bench with responses } } })

end Frontend
end Passage
