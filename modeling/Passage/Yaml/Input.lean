/- The characters of YAML texts and their classes, and what is left of a text.

   An input knows where it stands, for indentation is a column. -/
namespace Passage.Yaml

/-! ## Characters -/

/-- The characters that a text may hold. -/
def isLegal (c : Char) : Bool :=
  let n := c.val
  n == 0x9 || n == 0xa || n == 0xd || (0x20 ≤ n && n ≤ 0x7e) || n == 0x85 ||
    (0xa0 ≤ n && n ≤ 0xd7ff) || (0xe000 ≤ n && n ≤ 0xfffd) || 0x10000 ≤ n

/-- Writes the usual line breaks all in one way; the two Unicode separators stay. -/
def unifyBreaks : List Char → List Char
  | [] => []
  | '\r' :: '\n' :: rest => '\n' :: unifyBreaks rest
  | c :: rest => (if c == '\r' || c == '\u0085' then '\n' else c) :: unifyBreaks rest

def isBreak (c : Char) : Bool := c == '\n' || c == '\u2028' || c == '\u2029'

def isBlank (c : Char) : Bool := c == ' ' || c == '\t'

/-- What separates words: blanks and line breaks. -/
def isGap (c : Char) : Bool := isBlank c || isBreak c

/-- Whether a gap or the end of the text comes first. -/
def gapAhead : List Char → Bool
  | [] => true
  | c :: _ => isGap c

/-- Whether a line break or the end of the text comes first. -/
def lineEnds : List Char → Bool
  | [] => true
  | c :: _ => isBreak c

/-- Whether one of the given characters comes first. -/
def anyAhead (cs : String) : List Char → Bool
  | [] => false
  | c :: _ => cs.toList.contains c

/-- The characters of names. -/
def isWord (c : Char) : Bool := c.isAlphanum || c == '_' || c == '-'

/-- The characters that delimit flow collections. -/
def isFlowIndicator (c : Char) : Bool := ",[]\x7b\x7d".toList.contains c

/-! ## Inputs -/

structure Input where
  rest : List Char
  /-- Bytes before the rest. -/
  index : Nat
  /-- Line breaks before the rest. -/
  line : Nat
  /-- Characters since the last line break. -/
  column : Nat

namespace Input

def ofText (cs : List Char) : Input := ⟨cs, 0, 0, 0⟩

/-- One character on. -/
def next (i : Input) : Input :=
  match i.rest with
  | [] => i
  | c :: rest =>
    if isBreak c then ⟨rest, i.index + c.utf8Size, i.line + 1, 0⟩
    else ⟨rest, i.index + c.utf8Size, i.line, i.column + 1⟩

/-- So many characters on. -/
def drop : Nat → Input → Input
  | 0, i => i
  | n + 1, i => drop n i.next

def dropWhile (p : Char → Bool) (i : Input) : Input := i.drop (i.rest.takeWhile p).length

/-- On to where only `rest` is left. -/
def dropTo (rest : List Char) (i : Input) : Input := i.drop (i.rest.length - rest.length)

/-- Whether three marks stand alone at the start of the line. -/
def marked (mark : Char) (i : Input) : Bool :=
  i.column == 0 && i.rest.take 3 == [mark, mark, mark] && gapAhead (i.rest.drop 3)

/-- Whether a document starts or ends here. -/
def atDocumentMark (i : Input) : Bool := i.marked '-' || i.marked '.'

end Input

end Passage.Yaml
