import Passage.Yaml.Scalar
import Passage.Yaml.Tag

/- From characters to tokens.

   Indentation opens and closes block collections: `indents` holds the columns
   of those that are open. That a mapping's key has begun shows only at the
   colon behind it, so for each open flow collection, and for the block around
   them, `keys` holds the place where one may have begun, and the tokens of
   the key and of its mapping are put in there later. Such a place counts
   within one line and for 1024 bytes; one at the column of the open
   block must turn out to be a key.

   A text that breaks a rule has no tokens. -/
namespace Passage.Yaml

/-- A place where a key may have begun. -/
structure KeyStart where
  /-- Tokens before it. -/
  token : Nat
  /-- It must be a key. -/
  required : Bool
  index : Nat
  line : Nat
  column : Nat

structure Layout where
  input : Input
  /-- The tokens so far, the latest first. -/
  tokens : List Token
  /-- The columns of the open blocks, the innermost first. -/
  indents : List Nat
  /-- The possible keys, that of the innermost flow collection first and that of the blocks last. -/
  keys : List (Option KeyStart)
  /-- Whether a key may begin here. -/
  keyAllowed : Bool

namespace Layout

def ofText (cs : List Char) : Layout := ⟨.ofText cs, [], [], [none], true⟩

/-- Whether a flow collection is open. -/
def inFlow (l : Layout) : Bool := 1 < l.keys.length

/-- The least column inside the innermost block. -/
def base (l : Layout) : Nat :=
  match l.indents with
  | [] => 0
  | column :: _ => column + 1

def push (t : Token) (l : Layout) : Layout := { l with tokens := t :: l.tokens }

/-- Puts a token behind the first `n` ones. -/
def insert (n : Nat) (t : Token) (l : Layout) : Layout :=
  let later := l.tokens.length - n
  { l with tokens := l.tokens.take later ++ t :: l.tokens.drop later }

/-! ## Blocks -/

/-- Closes the innermost blocks while `hasEnded` holds of their columns. -/
def close (hasEnded : Nat → Bool) (l : Layout) : Layout :=
  if l.inFlow then l
  else
    let ended := l.indents.takeWhile hasEnded
    { l with
      indents := l.indents.drop ended.length
      tokens := ended.map (fun _ => .blockEnd) ++ l.tokens }

def closeAll (l : Layout) : Layout := l.close fun _ => true

/-- Opens a block at a column further in, behind the first `n` tokens. -/
def openAt (column n : Nat) (start : Token) (l : Layout) : Layout :=
  if l.inFlow || column < l.base then l
  else { l.insert n start with indents := column :: l.indents }

/-- Opens a block where the input stands. -/
def openHere (start : Token) (l : Layout) : Layout :=
  l.openAt l.input.column l.tokens.length start

/-! ## Keys -/

/-- Gives up the possible key of the innermost collection, which must not be required. -/
def forgetKey (l : Layout) : Option Layout :=
  match l.keys with
  | some k :: outer => if k.required then none else some { l with keys := none :: outer }
  | _ => some l

/-- Notes that a key may begin here, if it may. -/
def noteKey (l : Layout) : Option Layout :=
  if !l.keyAllowed then some l
  else
    match l.forgetKey with
    | none => none
    | some l =>
      let required := !l.inFlow && l.indents.head? == some l.input.column
      let key : KeyStart :=
        ⟨l.tokens.length, required, l.input.index, l.input.line, l.input.column⟩
      some { l with keys := some key :: l.keys.drop 1 }

/-- Whether a possible key is too far behind. -/
def isStale (l : Layout) (k : KeyStart) : Bool :=
  k.line < l.input.line || k.index + 1024 < l.input.index

/-- Gives up the keys that are too far behind; none of them may be required. -/
def dropStale (l : Layout) : Option Layout :=
  let stale := fun (k : Option KeyStart) => k.any l.isStale
  if l.keys.any fun k => stale k && k.any KeyStart.required then none
  else some { l with keys := l.keys.map fun k => if stale k then none else k }

def allow (keyAllowed : Bool) (l : Layout) : Layout := { l with keyAllowed }

/-- Passes `n` characters. -/
def skip (n : Nat) (l : Layout) : Layout := { l with input := l.input.drop n }

/-! ## Tokens -/

/-- Passes blanks, comments and line breaks. In a block a tab is no indentation, and a key may
    begin in each new line. -/
def toToken : Nat → Layout → Layout
  | 0, l => l
  | fuel + 1, l =>
    let i := if l.input.column == 0 && anyAhead "\ufeff" l.input.rest then l.input.next else l.input
    let i := i.dropWhile fun c => c == ' ' || (c == '\t' && (l.inFlow || !l.keyAllowed))
    let i := if anyAhead "#" i.rest then i.dropWhile (!isBreak ·) else i
    if i.rest.head?.any isBreak then
      toToken fuel { l with input := i.next, keyAllowed := l.keyAllowed || !l.inFlow }
    else { l with input := i }

/-- A token that is over after `n` characters, opens nothing, and is no key. -/
def mark (n : Nat) (t : Token) (keyAllowed : Bool) (l : Layout) : Option Layout :=
  l.forgetKey.map fun l => ((l.allow keyAllowed).skip n).push t

/-- The start or end of a document. -/
def documentMark (t : Token) (l : Layout) : Option Layout := l.closeAll.mark 3 t false

def directiveLine (l : Layout) : Option Layout := do
  let l ← l.closeAll.forgetKey
  let (t, rest) ← directive (l.input.rest.drop 1)
  return ({ l with input := (l.input.dropTo rest).next }.allow false).push t

def flowStart (t : Token) (l : Layout) : Option Layout :=
  l.noteKey.map fun l => (({ l with keys := none :: l.keys }.allow true).skip 1).push t

def flowEnd (t : Token) (l : Layout) : Option Layout :=
  l.forgetKey.map fun l =>
    let l := if l.inFlow then { l with keys := l.keys.drop 1 } else l
    ((l.allow false).skip 1).push t

def blockEntry (l : Layout) : Option Layout :=
  if l.inFlow then l.mark 1 .blockEntry true
  else if !l.keyAllowed then none
  else (l.openHere .blockSequenceStart).mark 1 .blockEntry true

/-- A key that is marked as one. -/
def markedKey (l : Layout) : Option Layout :=
  if l.inFlow then l.mark 1 .key false
  else if !l.keyAllowed then none
  else (l.openHere .blockMappingStart).mark 1 .key true

/-- A colon: makes a key of what began at the noted place, or stands behind a marked key. -/
def value (l : Layout) : Option Layout :=
  match l.keys with
  | some k :: outer =>
    let l := (l.insert k.token .key).openAt k.column k.token .blockMappingStart
    some (({ l with keys := none :: outer }.allow false |>.skip 1).push .value)
  | _ =>
    if l.inFlow then some (((l.allow false).skip 1).push .value)
    else if !l.keyAllowed then none
    else some ((((l.openHere .blockMappingStart).allow true).skip 1).push .value)

/-- An alias, an anchor or a tag: a token that may begin a key. -/
def named (read : List Char → Option (Token × List Char)) (l : Layout) : Option Layout := do
  let l ← l.noteKey
  let (t, rest) ← read (l.input.rest.drop 1)
  return ({ l with input := l.input.dropTo rest }.allow false).push t

def quotedScalar (quote : Char) (l : Layout) : Option Layout := do
  let l ← l.noteKey
  let (text, input) ← quoted quote l.input
  return ({ l with input }.allow false).push (.scalar .quoted text)

def blockScalar (literal : Bool) (l : Layout) : Option Layout := do
  let l ← l.forgetKey
  let (text, input) ← block literal l.base l.input
  return ({ l with input }.allow true).push (.scalar (if literal then .literal else .folded) text)

def plainScalar (l : Layout) : Option Layout := do
  let l ← l.noteKey
  let p ← plain l.inFlow l.base l.input
  return ({ l with input := p.input }.allow p.broken).push (.scalar .plain p.text)

/-- Whether a plain scalar may begin with `c` before `rest`. -/
def startsPlain (flow : Bool) (c : Char) (rest : List Char) : Bool :=
  !(isGap c || "-?:,[]\x7b\x7d#&*!|>'\"%@\x60".toList.contains c) ||
    (c == '-' && !rest.head?.any isBlank) || (!flow && (c == '?' || c == ':') && !gapAhead rest)

/-- Reads one token that begins with `c`. -/
def token (c : Char) (rest : List Char) (l : Layout) : Option Layout :=
  if l.input.column == 0 && c == '%' then l.directiveLine
  else if l.input.marked '-' then l.documentMark .documentStart
  else if l.input.marked '.' then l.documentMark .documentEnd
  else if c == '[' then l.flowStart .flowSequenceStart
  else if c == '\x7b' then l.flowStart .flowMappingStart
  else if c == ']' then l.flowEnd .flowSequenceEnd
  else if c == '\x7d' then l.flowEnd .flowMappingEnd
  else if c == ',' then l.mark 1 .flowEntry true
  else if c == '-' && gapAhead rest then l.blockEntry
  else if c == '?' && (l.inFlow || gapAhead rest) then l.markedKey
  else if c == ':' && (l.inFlow || gapAhead rest) then l.value
  else if c == '*' then l.named fun cs => (anchorName cs).map fun (name, rest) => (.alias name, rest)
  else if c == '&' then l.named fun cs => (anchorName cs).map fun (name, rest) => (.anchor name, rest)
  else if c == '!' then l.named (tag l.inFlow)
  else if c == '|' && !l.inFlow then l.blockScalar true
  else if c == '>' && !l.inFlow then l.blockScalar false
  else if c == '\'' || c == '"' then l.quotedScalar c
  else if startsPlain l.inFlow c rest then l.plainScalar
  else none

/-- Reads all tokens that are left. -/
def tokensFrom : Nat → Layout → Option (List Token)
  | 0, _ => none
  | fuel + 1, l =>
    let l := l.toToken (l.input.rest.length + 1)
    match l.dropStale with
    | none => none
    | some l =>
      let l := l.close (l.input.column < ·)
      match l.input.rest with
      | [] => l.closeAll.forgetKey.map (·.tokens.reverse)
      | c :: rest =>
        match l.token c rest with
        | none => none
        | some l => tokensFrom fuel l

end Layout

/-- The tokens of a text. -/
def tokens? (cs : List Char) : Option (List Token) :=
  if cs.all isLegal then
    let cs := unifyBreaks cs
    (Layout.ofText cs).tokensFrom (cs.length + 1)
  else none

end Passage.Yaml
