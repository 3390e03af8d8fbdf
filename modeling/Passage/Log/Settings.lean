import Passage.Environment
import Passage.Log.Filter
import Passage.Text.Quoted

/- How a program logs: which events, and in which form. -/
namespace Passage.Log

inductive Format where
  | plain
  | json
  deriving DecidableEq, Repr

namespace Format

/-- A name that is no format's. -/
structure Fault where
  name : String
  deriving DecidableEq, Repr

def Fault.message (f : Fault) : String := "unknown log format " ++ Text.quoted f.name

/-- The format of a name, in letters of either case and with white space around it. -/
def ofName (s : String) : Except Fault Format :=
  let name := Verbosity.lower (String.ofList (Text.trim s.toList))
  if name = "plain" ∨ name = "text" then .ok .plain
  else if name = "json" then .ok .json
  else .error ⟨name⟩

end Format

structure Settings where
  filter : String
  format : Format
  deriving DecidableEq, Repr

namespace Settings

/-- The filter where none is set, and in place of one that cannot be read. -/
def defaultFilter : String := "info"

def default : Settings := ⟨defaultFilter, .plain⟩

/-- The settings in an environment. A blank filter counts as none, a wrong format as plain. -/
def ofEnvironment (env : Environment) : Settings :=
  let filter := match (env.get? "BERGHAIN_LOG").or (env.get? "RUST_LOG") with
    | none => defaultFilter
    | some text => if (Text.trim text.toList).isEmpty then defaultFilter else text
  let format := match env.get? "BERGHAIN_LOG_FORMAT" with
    | none => .plain
    | some name =>
      match Format.ofName name with
      | .ok format => format
      | .error _ => .plain
  ⟨filter, format⟩

def withFilter (s : Settings) (filter : String) : Settings := { s with filter }

def withFormat (s : Settings) (format : Format) : Settings := { s with format }

/-- The normal form of the filter, unless its reading is aborted. -/
def normalFilter (s : Settings) : Option String :=
  match Filter.parse s.filter with
  | .ok f => some f.describe
  | .error (.refused .malformed) => some defaultFilter
  | .error .aborted => none

end Settings
end Passage.Log
