import Passage.Yaml.Node

/- Nodes as values of the types that the reader expects.

   The type decides: a text takes any scalar as it is written, and a list or a
   table takes a value that is not written as an empty one. An alias is read
   as the node it stands for; a document may follow at most a hundred aliases
   for each of its events. -/
namespace Passage.Yaml

/-- A reading within a tree, which counts the aliases it follows. -/
abbrev Reading := ReaderT Tree (StateT Nat Option)

namespace Reading

/-- The node that a node stands for. -/
def resolve : Node → Reading Node
  | .alias number => do
    modify (· + 1)
    match (← read).anchored.toList.reverse.lookup number with
    | some node => return node
    | none => failure
  | node => return node

/-- The text of any scalar. -/
def text (n : Node) : Reading String := do
  match ← resolve n with
  | .scalar _ _ text => return text
  | _ => failure

/-- Whether a text says that there is no value. -/
def isNull (s : String) : Bool := s = "null" || s = "Null" || s = "NULL" || s = "~"

def nullTag : List Char := "tag:yaml.org,2002:null".toList

def intTag : List Char := "tag:yaml.org,2002:int".toList

/-- A value that may be missing: a plain scalar without a tag that is empty or says so. -/
def optional {α : Type} (item : Node → Reading α) (n : Node) : Reading (Option α) := do
  let n ← resolve n
  match n with
  | .scalar .plain none text => if text.isEmpty || isNull text then return none else some <$> item n
  | .scalar .plain (some tag) text =>
    if tag == nullTag then
      if isNull text then return none else failure
    else some <$> item n
  | _ => some <$> item n

/-- The digits of a number in a base; there must be some. -/
def digits? (base : Nat) (cs : List Char) : Option Nat :=
  if cs.isEmpty then none
  else
    cs.foldl (fun n c =>
      match n, Text.hexValue? c with
      | some n, some v => if v < base then some (base * n + v) else none
      | _, _ => none) (some 0)

/-- A whole number that is not negative: decimal without needless zeros, or with a base's mark in
    front. A plus sign may stand before it. -/
def natural? (s : String) : Option Nat :=
  let cs := match s.toList with
    | '+' :: rest => rest
    | cs => cs
  match cs with
  | '0' :: 'x' :: rest => digits? 16 rest
  | '0' :: 'o' :: rest => digits? 8 rest
  | '0' :: 'b' :: rest => digits? 2 rest
  | '0' :: _ :: _ => none
  | _ => digits? 10 cs

/-- A number of one byte, written plainly or as a literal block with the tag of integers. -/
def byte (n : Node) : Reading UInt8 := do
  match ← resolve n with
  | .scalar style tag text =>
    if style = .plain ∨ (style = .literal ∧ tag = some intTag) then
      match natural? text with
      | some v => if v < 256 then return UInt8.ofNat v else failure
      | none => failure
    else failure
  | _ => failure

/-- Whether a node is written as nothing at all. -/
def isUnwritten : Node → Bool
  | .scalar .plain _ "" => true
  | _ => false

def list {α : Type} (item : Node → Reading α) (n : Node) : Reading (List α) := do
  let n ← resolve n
  match n with
  | .sequence items => items.mapM item
  | _ => if isUnwritten n then return [] else failure

/-- The entries of a table by the text of their keys. -/
def entries (n : Node) : Reading (List (String × Node)) := do
  let n ← resolve n
  match n with
  | .mapping entries => entries.mapM fun (key, value) => return (← text key, value)
  | _ => if isUnwritten n then return [] else failure

/-- The entries of a table whose keys are among `names` and differ. -/
def fields (names : List String) (n : Node) : Reading (List (String × Node)) := do
  let es ← entries n
  let keys := es.map (·.1)
  if keys.all names.contains && keys.eraseDups.length == keys.length then return es else failure

/-- A field that must be there. -/
def required {α : Type} (name : String) (item : Node → Reading α) (es : List (String × Node)) :
    Reading α :=
  match es.lookup name with
  | some n => item n
  | none => failure

/-- A field that stands for `other` if it is not there. -/
def withDefault {α : Type} (name : String) (other : α) (item : Node → Reading α)
    (es : List (String × Node)) : Reading α :=
  match es.lookup name with
  | some n => item n
  | none => return other

end Reading

/-- Reads a text as one document of a type. -/
def decode? {α : Type} (item : Node → Reading α) (cs : List Char) : Option α := do
  let tree ← Tree.ofText? cs
  let (value, jumps) ← (item tree.root).run tree |>.run 0
  if jumps ≤ 100 * tree.events then return value else none

end Passage.Yaml
