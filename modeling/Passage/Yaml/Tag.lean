import Passage.Text
import Passage.Yaml.Input
import Passage.Yaml.Token

/- Anchors, tags and directives: the tokens that stand within one line.

   Each reader takes the characters behind the indicator and gives the token
   and what follows it. -/
namespace Passage.Yaml

/-- The name of an anchor or an alias. -/
def anchorName (cs : List Char) : Option (List Char × List Char) :=
  let name := cs.takeWhile isWord
  let rest := cs.drop name.length
  if name.isEmpty || !(gapAhead rest || anyAhead "?:,]\x7d%@\x60" rest) then none
  else some (name, rest)

/-! ## Tags -/

/-- How many octets a UTF-8 sequence has, by its first one. -/
def sequenceLength? (octet : Nat) : Option Nat :=
  if octet < 0x80 then some 1
  else if 0xc0 ≤ octet ∧ octet < 0xe0 then some 2
  else if 0xe0 ≤ octet ∧ octet < 0xf0 then some 3
  else if 0xf0 ≤ octet ∧ octet < 0xf8 then some 4
  else none

/-- One octet written as `%` and two digits. -/
def escapedOctet? : List Char → Option (Nat × List Char)
  | '%' :: a :: b :: rest =>
    match Text.hexValue? a, Text.hexValue? b with
    | some h, some l => some (16 * h + l, rest)
    | _, _ => none
  | _ => none

/-- So many octets that continue a sequence, as characters of their own. -/
def continuation : Nat → List Char → Option (List Char × List Char)
  | 0, rest => some ([], rest)
  | n + 1, cs =>
    match escapedOctet? cs with
    | none => none
    | some (octet, rest) =>
      if 0x80 ≤ octet ∧ octet < 0xc0 then
        (continuation n rest).map fun (more, rest) => (Char.ofNat octet :: more, rest)
      else none

/-- The characters of a tag; flow indicators belong to some tags. -/
def isTagCharacter (flow : Bool) (c : Char) : Bool :=
  isWord c || ";/?:@&=+$.!~*'()%".toList.contains c || (flow && ",[]".toList.contains c)

/-- The characters of a tag with their escapes resolved, and what follows. -/
def tagText (flow : Bool) : Nat → List Char → Option (List Char × List Char)
  | 0, cs => some ([], cs)
  | _ + 1, [] => some ([], [])
  | fuel + 1, c :: rest =>
    if !isTagCharacter flow c then some ([], c :: rest)
    else if c == '%' then
      match escapedOctet? (c :: rest) with
      | none => none
      | some (octet, rest) =>
        match (sequenceLength? octet).bind fun n => continuation (n - 1) rest with
        | none => none
        | some (more, rest) =>
          (tagText flow fuel rest).map fun (text, rest) => (Char.ofNat octet :: (more ++ text), rest)
    else (tagText flow fuel rest).map fun (text, rest) => (c :: text, rest)

/-- As `tagText`, but there must be characters. -/
def someTagText (flow : Bool) (cs : List Char) : Option (List Char × List Char) :=
  match tagText flow cs.length cs with
  | some (c :: text, rest) => some (c :: text, rest)
  | _ => none

/-- What counts of a tag's text: the characters before the first NUL. -/
def untilNul (text : List Char) : List Char := text.takeWhile (· != '\x00')

/-- Splits a tag, behind its first mark, into handle and suffix. -/
def tagParts (cs : List Char) : Option (Token × List Char) :=
  match cs with
  | '<' :: rest =>
    match someTagText true rest with
    | some (text, '>' :: rest) => some (.tag [] (untilNul text), rest)
    | _ => none
  | _ =>
    let name := cs.takeWhile isWord
    match cs.drop name.length with
    | '!' :: rest =>
      (someTagText false rest).map fun (text, rest) =>
        (.tag ('!' :: name ++ ['!']) (untilNul text), rest)
    | rest =>
      (tagText false rest.length rest).map fun (text, rest) =>
        let text := untilNul (name ++ text)
        (if text.isEmpty then .tag [] ['!'] else .tag ['!'] text, rest)

/-- Reads a tag behind its first mark, up to a gap or, in a flow collection, a comma. -/
def tag (flow : Bool) (cs : List Char) : Option (Token × List Char) :=
  match tagParts cs with
  | some (token, rest) =>
    if gapAhead rest || (flow && anyAhead "," rest) then some (token, rest) else none
  | none => none

/-! ## Directives -/

/-- A number of one to nine digits. -/
def versionNumber (cs : List Char) : Option (Nat × List Char) :=
  let digits := cs.takeWhile Char.isDigit
  if digits.isEmpty || digits.length > 9 then none
  else some (Text.decimal digits, cs.drop digits.length)

def versionDirective (cs : List Char) : Option (Token × List Char) := do
  let (major, rest) ← versionNumber (cs.dropWhile isBlank)
  match rest with
  | '.' :: rest =>
    let (minor, rest) ← versionNumber rest
    return (.version major minor, rest)
  | _ => none

/-- The handle that a directive defines: one mark, or a name between two. -/
def directiveHandle (cs : List Char) : Option (List Char × List Char) :=
  match cs with
  | '!' :: rest =>
    let name := rest.takeWhile isWord
    match rest.drop name.length with
    | '!' :: rest => some ('!' :: name ++ ['!'], rest)
    | rest => if name.isEmpty then some (['!'], rest) else none
  | _ => none

def tagDirective (cs : List Char) : Option (Token × List Char) := do
  let (handle, rest) ← directiveHandle (cs.dropWhile isBlank)
  if !rest.head?.any isBlank then none
  else
    let (stem, rest) ← someTagText true (rest.dropWhile isBlank)
    if gapAhead rest then return (.tagHandle handle (untilNul stem), rest) else none

/-- Reads a directive behind its mark; nothing but a comment follows it in its line. -/
def directive (cs : List Char) : Option (Token × List Char) := do
  let name := cs.takeWhile isWord
  let rest := cs.drop name.length
  let (token, rest) ←
    if !gapAhead rest then none
    else if name == "YAML".toList then versionDirective rest
    else if name == "TAG".toList then tagDirective rest
    else none
  let rest := rest.dropWhile isBlank
  let rest := if anyAhead "#" rest then rest.dropWhile (!isBreak ·) else rest
  if lineEnds rest then return (token, rest) else none

end Passage.Yaml
