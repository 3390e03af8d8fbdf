import Passage.Bytes
import Passage.Text.Alphanumeric

/- Environment variables, and files that assign them.

   A variable is written as its name, a sign of equality and its value, and is
   found by what it is written with, so that a name with such a sign in it
   reaches into a value. One whose value is not UTF-8 counts as unset.

   A file holds assignments, `NAME=value`, one a line. `export` may stand
   before a name, and comments begin with `#`. A value may have parts in
   quotes, which can go on over line ends, and `$name` or `${name}` in it
   stands for a variable or an earlier assignment. Loading stops at the first
   bad line and keeps what came before; it replaces no variable that is set. -/
namespace Passage

structure Environment where
  bindings : List (String × Bytes)
  deriving DecidableEq, Repr

namespace Environment

/-- What follows `head` in `bs`, if `bs` begins with it. -/
def behind? (head bs : Bytes) : Option Bytes :=
  if head.isPrefixOf bs then some (bs.drop head.length) else none

/-- The bytes that a name stands for. -/
def lookup (env : Environment) (name : String) : Option Bytes :=
  if name.isEmpty then none
  else
    env.bindings.findSome? fun (other, value) =>
      behind? (Bytes.ofText name ++ [61]) (Bytes.ofText other ++ 61 :: value)

def get? (env : Environment) (name : String) : Option String := (env.lookup name).bind Bytes.text?

def set (env : Environment) (name value : String) : Environment :=
  ⟨(name, Bytes.ofText value) :: env.bindings.filter (·.1 ≠ name)⟩

end Environment

namespace Assignments

/-! ## Lines -/

/-- Where a line stands between two characters: whether it goes on behind its end. -/
inductive LineState where
  | complete
  | escape
  | strong
  | strongEscape
  | weak
  | weakEscape
  /-- Right behind a blank: a comment may begin. -/
  | space
  deriving DecidableEq, Repr

/-- The state outside of quotes behind `c`. -/
def LineState.outside (c : Char) : LineState :=
  if c = '\\' then escape else if c = '"' then weak else if c = '\'' then strong else complete

def LineState.next (s : LineState) (c : Char) : LineState :=
  match s with
  | complete => if Text.isBlank c && c != '\n' && c != '\r' then space else outside c
  | space => outside c
  | escape => complete
  | strong => if c = '\\' then strongEscape else if c = '\'' then complete else strong
  | strongEscape => strong
  | weak => if c = '\\' then weakEscape else if c = '"' then complete else weak
  | weakEscape => weak

/-- A line up to its comment, and the state at its end, none if it has a comment. -/
def scanLine : LineState → List Char → List Char × Option LineState
  | s, [] => ([], some s)
  | s, c :: rest =>
    if s = .space ∧ c = '#' then ([], none)
    else
      let (kept, s) := scanLine (s.next c) rest
      (c :: kept, s)

/-- The lines of a file with the ends that they have. -/
def splitLines (line : Bytes) : Bytes → List Bytes
  | [] => if line.isEmpty then [] else [line.reverse]
  | b :: rest =>
    if b = 10 then (b :: line).reverse :: splitLines [] rest else splitLines (b :: line) rest

/-- Joins lines that go on; nothing counts from a line on that is not UTF-8 or has no end. -/
def joinLines (before : List Char) (s : LineState) : List Bytes → List (List Char)
  | [] => []
  | line :: rest =>
    match Bytes.text? line with
    | none => []
    | some text =>
      if (Text.trimStart (before ++ text.toList)).head? = some '#' then
        joinLines [] .complete rest
      else
        match scanLine s text.toList with
        | (kept, none) => (before ++ kept) :: joinLines [] .complete rest
        | (kept, some s) =>
          if s = .complete then (before ++ kept) :: joinLines [] .complete rest
          else joinLines (before ++ kept) s rest

/-- The lines of a file, without the mark that may stand before the first. -/
def lines (file : Bytes) : List (List Char) :=
  let file := if file.take 3 = [0xef, 0xbb, 0xbf] then file.drop 3 else file
  joinLines [] .complete (splitLines [] file)

/-! ## Values -/

/-- Where a value stands between two characters; `inWeak` says that double quotes are open. -/
inductive ValueState where
  | bare (inWeak : Bool)
  | escaped (inWeak : Bool)
  | strong
  /-- Behind `$`, with the name so far. -/
  | name (inWeak : Bool) (name : List Char)
  /-- Behind `${`, with the name so far. -/
  | block (inWeak : Bool) (name : List Char)
  /-- Behind a blank outside of quotes: nothing but a comment may follow. -/
  | ended
  deriving DecidableEq, Repr

/-- The characters of a value; `value` tells what a name stands for. -/
def readValue (value : List Char → List Char) : ValueState → List Char → Option (List Char)
  | .bare inWeak, [] => if inWeak then none else some []
  | .escaped inWeak, [] => if inWeak then none else some []
  | .name inWeak name, [] => if inWeak then none else some (value name)
  | .ended, [] => some []
  | .strong, [] => none
  | .block _ _, [] => none
  | .bare inWeak, c :: rest =>
    if c = '$' then readValue value (.name inWeak []) rest
    else if c = '"' then readValue value (.bare !inWeak) rest
    else if c = '\\' then readValue value (.escaped inWeak) rest
    else if c = '\'' ∧ !inWeak then readValue value .strong rest
    else if (c = ' ' ∨ c = '\t') ∧ !inWeak then readValue value .ended rest
    else (readValue value (.bare inWeak) rest).map (c :: ·)
  | .escaped inWeak, c :: rest =>
    if c = 'n' then (readValue value (.bare inWeak) rest).map ('\n' :: ·)
    else if "\\'\"$ ".toList.contains c then (readValue value (.bare inWeak) rest).map (c :: ·)
    else none
  | .strong, c :: rest =>
    if c = '\'' then readValue value (.bare false) rest
    else (readValue value .strong rest).map (c :: ·)
  | .name inWeak name, c :: rest =>
    if Text.isAlphanumeric c then readValue value (.name inWeak (name ++ [c])) rest
    else if c = '\x7b' ∧ name = [] then readValue value (.block inWeak []) rest
    else if c = '$' then (readValue value (.name inWeak []) rest).map (value name ++ ·)
    else (readValue value (.bare inWeak) rest).map (value name ++ c :: ·)
  | .block inWeak name, c :: rest =>
    if c = '\x7d' then (readValue value (.bare inWeak) rest).map (value name ++ ·)
    else readValue value (.block inWeak (name ++ [c])) rest
  | .ended, c :: rest =>
    if c = ' ' ∨ c = '\t' then readValue value .ended rest
    else if c = '#' then some []
    else none

/-! ## Assignments -/

/-- What a line says. -/
inductive Line where
  | nothing
  | assigns (name value : String)
  | bad
  deriving DecidableEq, Repr

def isNameCharacter (c : Char) : Bool := c.isAlphanum || c == '_' || c == '.'

/-- A name and what follows it. -/
def readName (cs : List Char) : Option (List Char × List Char) :=
  match cs with
  | [] => none
  | c :: _ =>
    if c.isAlpha || c == '_' then
      some (cs.takeWhile isNameCharacter, Text.trimStart (cs.dropWhile isNameCharacter))
    else none

/-- The name that is assigned to, and what follows the sign of equality. -/
def readTarget (cs : List Char) : Option (List Char × List Char) := do
  match ← readName cs with
  | (name, '=' :: rest) => return (name, rest)
  | (name, rest) =>
    if name = "export".toList then
      match ← readName rest with
      | (name, '=' :: rest) => return (name, rest)
      | _ => none
    else none

/-- Whether nothing but a comment is left. -/
def isOver (cs : List Char) : Bool := cs.isEmpty || cs.head? == some '#'

def readLine (value : List Char → List Char) (line : List Char) : Line :=
  let cs := Text.trim line
  if isOver cs then .nothing
  else
    match readTarget cs with
    | none => .bad
    | some (name, rest) =>
      let rest := Text.trimStart rest
      if isOver rest then .assigns (String.ofList name) ""
      else
        match readValue value (.bare false) rest with
        | none => .bad
        | some cs => .assigns (String.ofList name) (String.ofList cs)

/-- What a name stands for: a variable, else an earlier assignment, else nothing. -/
def meaning (env : Environment) (earlier : List (String × String)) (name : List Char) : List Char :=
  let name := String.ofList name
  ((env.get? name).getD ((earlier.lookup name).getD "")).toList

/-- Assigns line by line. A variable cannot hold NUL: then everything ends. -/
def assign (env : Environment) (earlier : List (String × String)) :
    List (List Char) → Option Environment
  | [] => some env
  | line :: rest =>
    match readLine (meaning env earlier) line with
    | .nothing => assign env earlier rest
    | .bad => some env
    | .assigns name value =>
      if (env.get? name).isSome then assign env ((name, value) :: earlier) rest
      else if value.toList.contains '\x00' then none
      else assign (env.set name value) ((name, value) :: earlier) rest

/-- The environment with the assignments of a file. -/
def load (env : Environment) (file : Bytes) : Option Environment := assign env [] (lines file)

end Assignments
end Passage
