import Passage.Yaml.Layout

/- From tokens to a tree of nodes.

   Anchors are numbered: a node's number is how many names were defined before
   it, and a name that is defined again counts once. So two anchors can get
   the same number, and an alias then stands for the later node. -/
namespace Passage.Yaml

inductive Node where
  | scalar (style : ScalarStyle) (tag : Option (List Char)) (text : String)
  | sequence (items : List Node)
  | mapping (entries : List (Node × Node))
  | alias (number : Nat)

/-- A document: its root, the anchored nodes by number in the order of their beginnings, and how
    many events its reading takes. -/
structure Tree where
  root : Node
  anchored : Array (Nat × Node)
  events : Nat

/-- A reading in progress. -/
structure Composition where
  tokens : List Token
  /-- What the document's tag handles stand for. -/
  handles : List (List Char × List Char)
  /-- The anchors' numbers. -/
  names : List (List Char × Nat)
  anchored : Array (Nat × Node)
  events : Nat

/-- A part of the reading, which fails where the tokens have no structure. -/
abbrev Compose := StateT Composition Option

namespace Compose

def peek : Compose (Option Token) := return (← get).tokens.head?

def advance : Compose Unit := modify fun s => { s with tokens := s.tokens.drop 1 }

/-- Passes one token if it is `t`. -/
def pass (t : Token) : Compose Bool := do
  if (← peek) == some t then
    advance
    return true
  else return false

/-- Whether one of the given tokens is next. -/
def ahead (ts : List Token) : Compose Bool := return (← peek).any ts.contains

/-- Passes what stands before an item of a flow collection: a comma, unless the item is the first.
    There is no item if the collection ends here; a comma may stand before its end. -/
def passToItem (first : Bool) (ender : Token) : Compose Bool := do
  if ← pass ender then return false
  else if first then return true
  else if ← pass .flowEntry then return !(← pass ender)
  else failure

def count (events : Nat) : Compose Unit := modify fun s => { s with events := s.events + events }

/-- A node that is not written. -/
def blank : Compose Node := do
  count 1
  return .scalar .plain none ""

/-! ## Properties -/

/-- An anchor, a tag, or both in either order. -/
def properties : Compose (Option (List Char) × Option Token) := do
  match ← peek with
  | some (.anchor name) =>
    advance
    match ← peek with
    | some (.tag handle suffix) =>
      advance
      return (some name, some (.tag handle suffix))
    | _ => return (some name, none)
  | some (.tag handle suffix) =>
    advance
    match ← peek with
    | some (.anchor name) =>
      advance
      return (some name, some (.tag handle suffix))
    | _ => return (none, some (.tag handle suffix))
  | _ => return (none, none)

/-- The handles that every document has. -/
def commonHandles : List (List Char × List Char) :=
  [("!".toList, "!".toList), ("!!".toList, "tag:yaml.org,2002:".toList)]

/-- A tag in full. -/
def fullTag : Option Token → Compose (Option (List Char))
  | some (.tag handle suffix) => do
    if handle.isEmpty then return some suffix
    else
      match ((← get).handles ++ commonHandles).lookup handle with
      | some stem => return some (stem ++ suffix)
      | none => failure
  | _ => return none

/-- Numbers a node that begins here; the place is kept for it. -/
def beginAnchor : Option (List Char) → Compose (Option Nat)
  | none => return none
  | some name => do
    let s ← get
    let number := s.names.length
    set { s with
      names := (name, number) :: s.names.filter (·.1 ≠ name)
      anchored := s.anchored.push (number, .alias number) }
    return some s.anchored.size

/-- Puts a finished node into the place that is kept for it. -/
def endAnchor (place : Option Nat) (node : Node) : Compose Node := do
  match place with
  | none => return node
  | some at_ =>
    modify fun s => { s with anchored := s.anchored.modify at_ fun (number, _) => (number, node) }
    return node

/-! ## Nodes -/

mutual

/-- Reads a node; block collections and sequences without indentation only where they may stand. -/
def node : Nat → Bool → Bool → Compose Node
  | 0, _, _ => failure
  | fuel + 1, inBlock, indentless => do
    match ← peek with
    | some (.alias name) =>
      advance
      count 1
      match (← get).names.lookup name with
      | some number => return .alias number
      | none => failure
    | _ =>
      let (anchor, tag) ← properties
      let tag ← fullTag tag
      let place ← beginAnchor anchor
      match ← peek with
      | some .blockEntry =>
        if indentless then
          count 2
          endAnchor place (.sequence (← indentlessItems fuel))
        else if anchor.isSome || tag.isSome then
          count 1
          endAnchor place (.scalar .plain tag "")
        else failure
      | some (.scalar style text) =>
        advance
        count 1
        endAnchor place (.scalar style tag (String.ofList text))
      | some .flowSequenceStart =>
        advance
        count 2
        endAnchor place (.sequence (← flowItems fuel true))
      | some .flowMappingStart =>
        advance
        count 2
        endAnchor place (.mapping (← flowPairs fuel true))
      | next =>
        if inBlock && next == some .blockSequenceStart then
          advance
          count 2
          endAnchor place (.sequence (← blockItems fuel))
        else if inBlock && next == some .blockMappingStart then
          advance
          count 2
          endAnchor place (.mapping (← blockPairs fuel))
        else if anchor.isSome || tag.isSome then
          count 1
          endAnchor place (.scalar .plain tag "")
        else failure

/-- A node of a block collection, which is blank if one of the given tokens is next. -/
def blockNode : Nat → Bool → List Token → Compose Node
  | 0, _, _ => failure
  | fuel + 1, indentless, enders => do
    if ← ahead enders then blank else node fuel true indentless

/-- A node of a flow collection, which is blank if one of the given tokens is next. -/
def flowNode : Nat → List Token → Compose Node
  | 0, _ => failure
  | fuel + 1, enders => do
    if ← ahead enders then blank else node fuel false false

/-- The items of a block sequence and its end. -/
def blockItems : Nat → Compose (List Node)
  | 0 => failure
  | fuel + 1 => do
    if ← pass .blockEntry then
      let item ← blockNode fuel false [.blockEntry, .blockEnd]
      return item :: (← blockItems fuel)
    else if ← pass .blockEnd then return []
    else failure

/-- The items of a sequence that stands at its key's column. -/
def indentlessItems : Nat → Compose (List Node)
  | 0 => failure
  | fuel + 1 => do
    if ← pass .blockEntry then
      let item ← blockNode fuel false [.blockEntry, .key, .value, .blockEnd]
      return item :: (← indentlessItems fuel)
    else return []

/-- The entries of a block mapping and its end. -/
def blockPairs : Nat → Compose (List (Node × Node))
  | 0 => failure
  | fuel + 1 => do
    if ← pass .key then
      let key ← blockNode fuel true [.key, .value, .blockEnd]
      let value ←
        if ← pass .value then blockNode fuel true [.key, .value, .blockEnd] else blank
      return (key, value) :: (← blockPairs fuel)
    else if ← pass .blockEnd then return []
    else failure

/-- The items of a flow sequence and its end. An item may be an entry, which is a mapping. -/
def flowItems : Nat → Bool → Compose (List Node)
  | 0, _ => failure
  | fuel + 1, first => do
    if !(← passToItem first .flowSequenceEnd) then return []
    else if ← pass .key then
      count 2
      let key ← flowNode fuel [.value, .flowEntry, .flowSequenceEnd]
      let value ←
        if ← pass .value then flowNode fuel [.flowEntry, .flowSequenceEnd] else blank
      return .mapping [(key, value)] :: (← flowItems fuel false)
    else
      let item ← node fuel false false
      return item :: (← flowItems fuel false)

/-- The entries of a flow mapping and its end. An item that is no entry is a key. -/
def flowPairs : Nat → Bool → Compose (List (Node × Node))
  | 0, _ => failure
  | fuel + 1, first => do
    if !(← passToItem first .flowMappingEnd) then return []
    else if ← pass .key then
      let key ← flowNode fuel [.value, .flowEntry, .flowMappingEnd]
      let value ←
        if ← pass .value then flowNode fuel [.flowEntry, .flowMappingEnd] else blank
      return (key, value) :: (← flowPairs fuel false)
    else
      let key ← node fuel false false
      return (key, ← blank) :: (← flowPairs fuel false)

end

/-! ## Documents -/

/-- The directives at a document's head: at most one version, which is 1.1 or 1.2, and handles
    that differ. -/
def directives : Nat → Bool → Compose Unit
  | 0, _ => failure
  | fuel + 1, versioned => do
    match ← peek with
    | some (.version major minor) =>
      if versioned || major != 1 || (minor != 1 && minor != 2) then failure
      else
        advance
        directives fuel true
    | some (.tagHandle handle stem) =>
      let s ← get
      if (s.handles.lookup handle).isSome then failure
      else
        set { s with handles := (handle, stem) :: s.handles }
        advance
        directives fuel versioned
    | _ => return ()

/-- The only document of a text. -/
def document : Compose Node := do
  let fuel := 4 * (← get).tokens.length + 4
  let explicit := (← peek).any fun t => t.isDirective || t == .documentStart
  let root ←
    if explicit then
      directives fuel false
      if ← pass .documentStart then
        match ← peek with
        | none => blank
        | some t =>
          if t.isDirective || t == .documentStart || t == .documentEnd then blank
          else node fuel true false
      else failure
    else node fuel true false
  if (← get).tokens.all (· == .documentEnd) then return root else failure

end Compose

/-- The tree of a text that is one document. -/
def Tree.ofText? (cs : List Char) : Option Tree := do
  let (root, s) ← Compose.document.run ⟨← tokens? cs, [], [], #[], 0⟩
  return ⟨root, s.anchored, s.events⟩

end Passage.Yaml
