import Passage.Text

/- Which log events are kept. -/
namespace Passage.Log

/-- Which events are kept: those up to a kind, from none to all. -/
inductive Verbosity where
  | off
  | error
  | warn
  | info
  | debug
  | trace
  deriving DecidableEq, Repr

namespace Verbosity

def all : List Verbosity := [off, error, warn, info, debug, trace]

def name : Verbosity → String
  | off => "off"
  | error => "error"
  | warn => "warn"
  | info => "info"
  | debug => "debug"
  | trace => "trace"

/-- Lowers ASCII letters. -/
def lower (s : String) : String := String.ofList (s.toList.map Char.toLower)

/-- The number that decimal digits spell; a plus sign may stand before them. -/
def number? (s : String) : Option Nat :=
  let digits := match s.toList with
    | '+' :: rest => rest
    | cs => cs
  if digits.isEmpty || !digits.all Char.isDigit then none else some (Text.decimal digits)

/-- A level by its number or by its name, in letters of either case. -/
def ofText? (s : String) : Option Verbosity :=
  match number? s with
  | some n => all[n]?
  | none => all.find? (·.name = lower s)

end Verbosity

end Passage.Log
