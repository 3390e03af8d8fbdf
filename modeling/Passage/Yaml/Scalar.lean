import Passage.Text
import Passage.Yaml.Input

/- The texts of scalars: plain ones, quoted ones, and blocks of lines.

   A single line break inside a plain or quoted scalar, and between two lines
   of a folded block, becomes a space; of several the first is dropped. -/
namespace Passage.Yaml

/-- What line breaks become between two words. -/
def fold : List Char → List Char
  | ['\n'] => [' ']
  | '\n' :: more => more
  | breaks => breaks

/-- What a gap between two words becomes: the blanks of one line stay. -/
def gapText (gap : List Char) : List Char :=
  let breaks := gap.filter isBreak
  if breaks.isEmpty then gap else fold breaks

/-! ## Plain -/

/-- The characters of a plain scalar up to the next gap or the scalar's end. In a flow collection
    no colon may stand right before an indicator. -/
def plainRun (flow : Bool) : List Char → Option (List Char)
  | [] => some []
  | c :: rest =>
    if isGap c then some []
    else if flow && c == ':' && anyAhead ",?[]\x7b\x7d" rest then none
    else if (c == ':' && gapAhead rest) || (flow && isFlowIndicator c) then some []
    else (plainRun flow rest).map (c :: ·)

/-- Whether a tab stands left of column `indent` in a gap; `column` is none before its first line
    break. -/
def tabWithin (indent : Nat) : Option Nat → List Char → Bool
  | _, [] => false
  | column, c :: rest =>
    if isBreak c then tabWithin indent (some 0) rest
    else
      match column with
      | none => tabWithin indent none rest
      | some k => (c == '\t' && k < indent) || tabWithin indent (some (k + 1)) rest

/-- A plain scalar that was read: its text, what is left, and whether a line break was passed
    behind it. -/
structure Plain where
  text : List Char
  input : Input
  broken : Bool

/-- Reads on from a word's first character; `text` and `gap` are what comes before. -/
def plainFrom (flow : Bool) (indent : Nat) : Nat → List Char → List Char → Input → Option Plain
  | 0, text, gap, i => some ⟨text, i, gap.any isBreak⟩
  | fuel + 1, text, gap, i =>
    if i.atDocumentMark || anyAhead "#" i.rest then some ⟨text, i, gap.any isBreak⟩
    else
      match plainRun flow i.rest with
      | none => none
      | some [] => some ⟨text, i, gap.any isBreak⟩
      | some run =>
        let text := text ++ gapText gap ++ run
        let i := i.drop run.length
        let gap := i.rest.takeWhile isGap
        let i := i.drop gap.length
        if gap.isEmpty then some ⟨text, i, false⟩
        else if tabWithin indent none gap then none
        else if !flow && i.column < indent then some ⟨text, i, gap.any isBreak⟩
        else plainFrom flow indent fuel text gap i

/-- Reads a plain scalar whose further lines are indented by `indent` at least. -/
def plain (flow : Bool) (indent : Nat) (i : Input) : Option Plain :=
  plainFrom flow indent i.rest.length [] [] i

/-! ## Quoted -/

/-- The number of so many hexadecimal digits, and what follows them. -/
def hexRead : Nat → Nat → List Char → Option (Nat × List Char)
  | 0, n, rest => some (n, rest)
  | _ + 1, _, [] => none
  | k + 1, n, c :: rest =>
    match Text.hexValue? c with
    | none => none
    | some v => hexRead k (16 * n + v) rest

/-- The character that an escape of one letter stands for. -/
def escaped? (c : Char) : Option Char :=
  match c with
  | '0' => some '\x00'
  | 'a' => some '\x07'
  | 'b' => some '\x08'
  | 't' => some '\t'
  | '\t' => some '\t'
  | 'n' => some '\n'
  | 'v' => some '\x0b'
  | 'f' => some '\x0c'
  | 'r' => some '\r'
  | 'e' => some '\x1b'
  | ' ' => some ' '
  | '"' => some '"'
  | '/' => some '/'
  | '\\' => some '\\'
  | 'N' => some '\u0085'
  | '_' => some '\u00a0'
  | 'L' => some '\u2028'
  | 'P' => some '\u2029'
  | _ => none

/-- How many digits an escape by number has. -/
def escapeDigits? (c : Char) : Option Nat :=
  match c with
  | 'x' => some 2
  | 'u' => some 4
  | 'U' => some 8
  | _ => none

/-- The character of an escape, behind its backslash, and what follows. -/
def readEscape : List Char → Option (Char × List Char)
  | [] => none
  | c :: rest =>
    match escapeDigits? c with
    | none => (escaped? c).map (·, rest)
    | some digits =>
      match hexRead digits 0 rest with
      | none => none
      | some (n, rest) => if n.isValidChar then some (Char.ofNat n, rest) else none

/-- The text up to the next gap, closing quote or escaped line break, and what follows it. -/
def quotedRun (quote : Char) : Nat → List Char → Option (List Char × List Char)
  | 0, _ => none
  | _ + 1, [] => some ([], [])
  | fuel + 1, c :: rest =>
    if isGap c then some ([], c :: rest)
    else if quote == '"' && c == '\\' then
      if rest.head?.any isBreak then some ([], c :: rest)
      else
        match readEscape rest with
        | none => none
        | some (e, rest) => (quotedRun quote fuel rest).map fun (run, rest) => (e :: run, rest)
    else if c == quote then
      if quote == '\'' && rest.head? == some quote then
        (quotedRun quote fuel (rest.drop 1)).map fun (run, rest) => (quote :: run, rest)
      else some ([], c :: rest)
    else (quotedRun quote fuel rest).map fun (run, rest) => (c :: run, rest)

/-- Reads on behind an opening quote or a gap; `text` is what comes before. -/
def quotedFrom (quote : Char) : Nat → List Char → Input → Option (List Char × Input)
  | 0, _, _ => none
  | fuel + 1, text, i =>
    if i.atDocumentMark then none
    else
      match quotedRun quote (i.rest.length + 1) i.rest with
      | none => none
      | some (run, rest) =>
        let text := text ++ run
        let i := i.dropTo rest
        match rest with
        | [] => none
        | c :: _ =>
          if c == quote then some (text, i.next)
          else
            let isEscape := c == '\\'
            let i := if isEscape then i.drop 2 else i
            let gap := i.rest.takeWhile isGap
            let joint := if isEscape then gap.filter isBreak else gapText gap
            quotedFrom quote fuel (text ++ joint) (i.drop gap.length)

/-- Reads a quoted scalar from its opening quote on. -/
def quoted (quote : Char) (i : Input) : Option (List Char × Input) :=
  quotedFrom quote (i.rest.length + 1) [] i.next

/-! ## Blocks -/

/-- What becomes of the line breaks at a block's end. -/
inductive Chomping where
  /-- All are dropped. -/
  | strip
  /-- The first stays. -/
  | clip
  /-- All stay. -/
  | keep
  deriving DecidableEq, Repr

def chomping? (c : Char) : Option Chomping :=
  if c == '+' then some .keep else if c == '-' then some .strip else none

/-- The indentation that a digit asks for, which is not 0. -/
def indentDigit? (c : Char) : Option Nat :=
  if c.isDigit && c != '0' then some (Text.digitValue c) else none

/-- The marks behind a block's indicator: chomping and indentation, in either order. Indentation 0
    means none is given. -/
def blockHeader (cs : List Char) : Option (Chomping × Nat × List Char) :=
  match cs with
  | [] => some (.clip, 0, [])
  | c :: rest =>
    match chomping? c with
    | some chomping =>
      match rest with
      | d :: more =>
        if d.isDigit then (indentDigit? d).map (chomping, ·, more) else some (chomping, 0, rest)
      | [] => some (chomping, 0, [])
    | none =>
      if c.isDigit then
        match indentDigit? c, rest.head?.bind chomping? with
        | none, _ => none
        | some n, some chomping => some (chomping, n, rest.drop 1)
        | some n, none => some (.clip, n, rest)
      else some (.clip, 0, cs)

/-- What comes before a block's next line: line breaks, the widest column met, and the line. -/
structure Lead where
  breaks : List Char
  widest : Nat
  input : Input

/-- Passes empty lines and indentation of up to `indent` columns, of any width if that is 0. A tab
    must not stand in the indentation. -/
def leadFrom (indent : Nat) : Nat → List Char → Nat → Input → Option Lead
  | 0, breaks, widest, i => some ⟨breaks, widest, i⟩
  | fuel + 1, breaks, widest, i =>
    let spaces := (i.rest.takeWhile (· == ' ')).length
    let i := i.drop (if indent == 0 then spaces else min spaces (indent - i.column))
    let widest := max widest i.column
    if (indent == 0 || i.column < indent) && anyAhead "\t" i.rest then none
    else
      match i.rest with
      | c :: _ =>
        if isBreak c then leadFrom indent fuel (breaks ++ [c]) widest i.next
        else some ⟨breaks, widest, i⟩
      | [] => some ⟨breaks, widest, i⟩

def lead (indent : Nat) (i : Input) : Option Lead := leadFrom indent (i.rest.length + 1) [] 0 i

/-- A block up to some line: its text, the break that ended its last line, the empty lines
    behind that, and whether the line began with a blank. -/
structure Block where
  text : List Char
  lastBreak : List Char
  breaks : List Char
  blank : Bool
  input : Input

/-- Adds the lines that stand at column `indent`. -/
def blockFrom (literal : Bool) (indent : Nat) : Nat → Block → Option Block
  | 0, b => some b
  | fuel + 1, b =>
    if b.input.column == indent && !b.input.rest.isEmpty then
      let blank := b.input.rest.head?.any isBlank
      let joint :=
        if !literal && b.lastBreak == ['\n'] && !b.blank && !blank then
          if b.breaks.isEmpty then [' '] else []
        else b.lastBreak
      let line := b.input.rest.takeWhile (!isBreak ·)
      let i := b.input.drop line.length
      let lastBreak := i.rest.take 1
      match lead indent (i.drop lastBreak.length) with
      | none => none
      | some l =>
        blockFrom literal indent fuel
          ⟨b.text ++ joint ++ b.breaks ++ line, lastBreak, l.breaks, blank, l.input⟩
    else some b

/-- Reads a block scalar from its indicator on; `base` is the least column of its lines. -/
def block (literal : Bool) (base : Nat) (i : Input) : Option (List Char × Input) :=
  match blockHeader (i.rest.drop 1) with
  | none => none
  | some (chomping, given, rest) =>
    let i := (i.dropTo rest).dropWhile isBlank
    let i := if anyAhead "#" i.rest then i.dropWhile (!isBreak ·) else i
    if !lineEnds i.rest then none
    else
      match lead (if given == 0 then 0 else (base - 1) + given) i.next with
      | none => none
      | some l =>
        let indent := if given == 0 then max l.widest (max base 1) else (base - 1) + given
        match blockFrom literal indent (l.input.rest.length + 1) ⟨[], [], l.breaks, false, l.input⟩ with
        | none => none
        | some b =>
          let text := b.text ++ (if chomping == .strip then [] else b.lastBreak)
          some (text ++ (if chomping == .keep then b.breaks else []), b.input)

end Passage.Yaml
