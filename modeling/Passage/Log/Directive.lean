import Passage.Log.Field
import Passage.Log.Verbosity
import Passage.Text

/- Directives of a log filter: a level for some events.

     target[span{field=value}]=level

   Each part may be missing, but there is something. A single word is a level
   if it can be and a target otherwise; without a level all events count.

   The places of the parts are counted without white space at the ends of a
   directive, and the parts are then cut out of it with that white space. A
   cut inside of a character ends everything. -/
namespace Passage.Log

structure Directive where
  target : Option String
  /-- The span that an event must be in. -/
  span : Option String
  /-- The field that an event or its span must have. -/
  field : Option Field
  level : Verbosity
  deriving DecidableEq, Repr

/-- Why a text is no filter. -/
inductive FilterFault where
  /-- A directive is not written in the form that directives have. -/
  | malformed
  deriving DecidableEq, Repr

namespace Directive

def describe (d : Directive) : String :=
  let target := d.target.getD ""
  let field := match d.field with
    | none => ""
    | some f => "\x7b" ++ f.describe ++ "\x7d"
  let span := if d.span.isSome || d.field.isSome then "[" ++ d.span.getD "" ++ field ++ "]" else ""
  let mark := if d.target.isSome || d.span.isSome || d.field.isSome then "=" else ""
  target ++ span ++ mark ++ d.level.name

/-- Orders directives from general to specific: by the bytes of their targets' names, by whether
    they have a span, by whether they have a field, and then by these texts. -/
def order (d e : Directive) : Ordering :=
  let field := match d.field, e.field with
    | none, none => .eq
    | none, some _ => .lt
    | some _, none => .gt
    | some f, some g => f.order g
  (compare (d.target.map String.utf8ByteSize) (e.target.map String.utf8ByteSize)).then <|
    (compare d.span.isSome e.span.isSome).then <|
      (compare d.field.isSome e.field.isSome).then <|
        (compare d.target e.target).then <| (compare d.span e.span).then field

/-! ## Reading -/

/-- Without its first `n` bytes, if a character begins behind them. -/
def dropBytes? : Nat → List Char → Option (List Char)
  | 0, cs => some cs
  | _ + 1, [] => none
  | n + 1, c :: rest => if c.utf8Size ≤ n + 1 then dropBytes? (n + 1 - c.utf8Size) rest else none

/-- The first `n` bytes, if a character ends with them. -/
def takeBytes? : Nat → List Char → Option (List Char)
  | 0, _ => some []
  | _ + 1, [] => none
  | n + 1, c :: rest =>
    if c.utf8Size ≤ n + 1 then (takeBytes? (n + 1 - c.utf8Size) rest).map (c :: ·) else none

/-- The bytes from `start` up to `stop`. -/
def cut (source : List Char) (start stop : Nat) : Except (Halt FilterFault) String :=
  match (dropBytes? start source).bind (takeBytes? (stop - start)) with
  | some cs => .ok (String.ofList cs)
  | none => .error .aborted

/-- All bytes from `start` on. -/
def cutFrom (source : List Char) (start : Nat) : Except (Halt FilterFault) String :=
  match dropBytes? start source with
  | some cs => .ok (String.ofList cs)
  | none => .error .aborted

/-- Where reading stands between two characters, with the offset where a part begins. -/
inductive Place where
  | start
  /-- In a target or a level. -/
  | word
  | span (start : Nat)
  | field (start : Nat)
  | behindField
  | behindSpan
  | level (start : Nat)
  deriving DecidableEq, Repr

/-- What has been read of a directive. -/
structure Draft where
  place : Place
  directive : Directive
  deriving DecidableEq, Repr

def Draft.start : Draft := ⟨.start, ⟨none, none, none, .trace⟩⟩

def malformed {α : Type} : Except (Halt FilterFault) α := .error (.refused .malformed)

/-- Whether a directive may begin with a character. -/
def mayBegin (c : Char) : Bool := Text.isAlphanumeric c || c == '-' || c == ':' || c == '_'

/-- Reads one character, which stands at `offset`. -/
def Draft.step (source : List Char) (d : Draft) (offset : Nat) (c : Char) :
    Except (Halt FilterFault) Draft :=
  match d.place with
  | .start =>
    if c = '[' then .ok { d with place := .span (offset + 1) }
    else if mayBegin c then .ok { d with place := .word }
    else malformed
  | .word =>
    if c = '=' then do
      let target ← cut source 0 offset
      return ⟨.level (offset + 1), { d.directive with target := some target }⟩
    else if c = '[' then do
      let target ← cut source 0 offset
      return ⟨.span (offset + 1), { d.directive with target := some target }⟩
    else .ok d
  | .span start =>
    if c = ']' then do
      let span ← cut source start offset
      return ⟨.behindSpan, { d.directive with span := some span }⟩
    else if c = '\x7b' then do
      let span ← cut source start offset
      return ⟨.field (offset + 1),
        { d.directive with span := if span.isEmpty then none else some span }⟩
    else .ok d
  | .field start =>
    if c = '\x7d' then do
      let text ← cut source start offset
      if text.isEmpty then malformed
      else
        match Field.ofText? text with
        | some f => return ⟨.behindField, { d.directive with field := some f }⟩
        | none => malformed
    else .ok d
  | .behindField => if c = ']' then .ok { d with place := .behindSpan } else malformed
  | .behindSpan => if c = '=' then .ok { d with place := .level (offset + 1) } else malformed
  | .level _ => .ok d

/-- The directive at the end of its text. -/
def Draft.finish (source : List Char) (d : Draft) : Except (Halt FilterFault) Directive :=
  match d.place with
  | .word =>
    let word := String.ofList source
    match Verbosity.ofText? word with
    | some level => .ok { d.directive with level }
    | none => .ok { d.directive with target := some word }
  | .level start => do
    let text ← cutFrom source start
    if text.isEmpty then return d.directive
    else
      match Verbosity.ofText? text with
      | some level => return { d.directive with level }
      | none => malformed
  | .behindSpan => .ok d.directive
  | _ => malformed

/-- Reads the characters from `offset` on. -/
def Draft.read (source : List Char) (d : Draft) (offset : Nat) :
    List Char → Except (Halt FilterFault) Directive
  | [] => d.finish source
  | c :: rest => do
    let d ← d.step source offset c
    d.read source (offset + c.utf8Size) rest

def parse (cs : List Char) : Except (Halt FilterFault) Directive :=
  Draft.start.read cs 0 (Text.trim cs)

end Directive
end Passage.Log
