import Passage.Text
import Passage.Text.Alphanumeric

/- Which texts are patterns for the values of fields.

   Patterns are regular expressions: alternatives of sequences, groups,
   repetitions, classes in brackets, escapes and flags. Only what can be
   decided byte by byte and without tables is one, so that there are no look
   around, no word boundaries, no properties and no folding of cases but for
   ASCII, where the flag `u` is off; what is matched there must be UTF-8 all
   the same. The text of a pattern ends before its first closing brace, so
   that there are no counts either.

   Reading keeps no tree, only how deep it would be: a pattern is at most 250
   nodes deep. -/
namespace Passage.Log.Pattern

/-- The flags that decide what is allowed. -/
structure Mode where
  /-- Flag `x`: blanks and comments do not count. -/
  spaced : Bool
  /-- Flag `u`: characters are matched, and not bytes. -/
  unicode : Bool
  /-- Flag `i`: letters of either case are matched. -/
  caseless : Bool
  deriving DecidableEq, Repr

namespace Mode

def default : Mode := ⟨false, true, false⟩

/-- Whether matching letters of either case would need a table. -/
def needsFolding (m : Mode) : Bool := m.caseless && m.unicode

def set (m : Mode) (flag : Char) (on : Bool) : Mode :=
  if flag = 'x' then { m with spaced := on }
  else if flag = 'u' then { m with unicode := on }
  else if flag = 'i' then { m with caseless := on }
  else m

/-- Passes what does not count; `comment` says that a comment is open. -/
def skipFrom : Bool → List Char → List Char
  | _, [] => []
  | true, c :: rest => skipFrom (c ≠ '\n') rest
  | false, c :: rest =>
    if Text.isBlank c then skipFrom false rest else if c = '#' then skipFrom true rest else c :: rest

def skip (m : Mode) (cs : List Char) : List Char := if m.spaced then skipFrom false cs else cs

end Mode

/-! ## Depth -/

/-- The most nodes that a pattern is deep. -/
abbrev maxDepth : Nat := 250

/-- How deep the members of a sequence are. -/
structure Sequence where
  /-- The deepest before the last. -/
  before : Option Nat
  last : Option Nat
  deriving DecidableEq, Repr

namespace Sequence

def empty : Sequence := ⟨none, none⟩

def push (s : Sequence) (depth : Nat) : Sequence := ⟨s.before.merge max s.last, some depth⟩

/-- Puts a node around the last member. -/
def wrapLast (s : Sequence) : Sequence := { s with last := s.last.map (· + 1) }

/-- How deep the sequence is: one member is no sequence of its own. -/
def depth (s : Sequence) : Nat :=
  match s.before with
  | none => s.last.getD 0
  | some d => max d (s.last.getD 0) + 1

end Sequence

/-! ## Escapes -/

/-- What an escape stands for. -/
inductive Escape where
  | literal (c : Char)
  /-- A class of bytes. -/
  | bytes
  /-- A place between characters. -/
  | place
  deriving DecidableEq, Repr

/-- So many hexadecimal digits. -/
def hexadecimal (m : Mode) : Nat → Nat → List Char → Option (Nat × List Char)
  | 0, n, cs => some (n, cs)
  | k + 1, n, cs =>
    match m.skip cs with
    | [] => none
    | c :: rest =>
      match Text.hexValue? c with
      | none => none
      | some v => hexadecimal m k (16 * n + v) rest

/-- The character of a number, which without the flag `u` must be ASCII if it has two digits. -/
def numbered (m : Mode) (digits : Nat) (cs : List Char) : Option (Escape × List Char) :=
  match hexadecimal m digits 0 cs with
  | none => none
  | some (n, rest) =>
    if !n.isValidChar || (!m.unicode && digits = 2 && 128 ≤ n) then none
    else some (.literal (Char.ofNat n), m.skip rest)

/-- The character of an escape by one letter. -/
def letter? (c : Char) : Option Char :=
  match c with
  | 'a' => some '\x07'
  | 'f' => some '\x0c'
  | 't' => some '\t'
  | 'n' => some '\n'
  | 'r' => some '\r'
  | 'v' => some '\x0b'
  | _ => if c.isAlphanum || 128 ≤ c.toNat then none else some c

/-- Reads an escape behind its backslash. -/
def escape (m : Mode) : List Char → Option (Escape × List Char)
  | [] => none
  | c :: rest =>
    if c = 'x' then numbered m 2 rest
    else if c = 'u' then numbered m 4 rest
    else if c = 'U' then numbered m 8 rest
    else if "dsw".toList.contains c then if m.unicode then none else some (.bytes, rest)
    else if "bB<>".toList.contains c then
      if m.unicode || (c = 'b' && rest.head? = some '\x7b') then none else some (.place, rest)
    else if c = 'A' ∨ c = 'z' then some (.place, rest)
    else (letter? c).map fun c => (.literal c, rest)

/-! ## Classes -/

def posixNames : List String :=
  ["alnum", "alpha", "ascii", "blank", "cntrl", "digit", "graph", "lower", "print", "punct",
    "space", "upper", "word", "xdigit"]

/-- Reads a named class, which stands in brackets and colons, behind its bracket: whether it is
    negated, and what follows. -/
def posixClass (cs : List Char) : Option (Bool × List Char) :=
  match cs with
  | ':' :: rest =>
    let negated := rest.head? = some '^'
    let rest := if negated then rest.drop 1 else rest
    let name := rest.takeWhile (· ≠ ':')
    match rest.drop name.length with
    | ':' :: ']' :: rest =>
      if posixNames.contains (String.ofList name) then some (negated, rest) else none
    | _ => none
  | _ => none

/-- One member of a class. -/
def member (m : Mode) : List Char → Option (Escape × List Char)
  | [] => none
  | c :: rest => if c = '\\' then escape m rest else some (.literal c, rest)

/-- Whether a literal may be in a class. -/
def mayBelong (m : Mode) (c : Char) : Bool := m.unicode || c.toNat < 128

/-- Reads a member or a range. -/
def range (m : Mode) (cs : List Char) : Option (List Char) := do
  let (first, rest) ← member m cs
  let rest := m.skip rest
  match rest with
  | [] => none
  | c :: more =>
    let next := (m.skip more).head?
    if c ≠ '-' ∨ next = some ']' ∨ next = some '-' then
      match first with
      | .literal c => if mayBelong m c then some rest else none
      | .bytes => some rest
      | .place => none
    else
      let (last, rest) ← member m (m.skip more)
      match first, last with
      | .literal a, .literal b =>
        if a ≤ b ∧ mayBelong m a ∧ mayBelong m b then some rest else none
      | _, _ => none

/-- The innermost open class. -/
structure OpenClass where
  /-- How deep is what stands left of the last operator. -/
  left : Option Nat
  /-- The members since then. -/
  members : Sequence

namespace OpenClass

def push (o : OpenClass) (depth : Nat) : OpenClass := { o with members := o.members.push depth }

def depth (o : OpenClass) : Nat :=
  match o.left with
  | none => o.members.depth
  | some d => max d o.members.depth + 1

/-- Passes an operator, which takes all that is left of it. -/
def operate (o : OpenClass) : OpenClass := ⟨some o.depth, .empty⟩

/-- Passes the start of a class behind its bracket: a mark of negation, dashes, and a closing
    bracket that is a member because it comes first. -/
def start (m : Mode) (cs : List Char) : Option (OpenClass × List Char) :=
  let cs := m.skip cs
  let negated := cs.head? = some '^'
  let cs := if negated then m.skip (cs.drop 1) else cs
  let run := cs.takeWhile fun c => c = '-' || (m.spaced && Text.isBlank c)
  let dashes := run.filter (· = '-')
  let cs := m.skip (cs.drop run.length)
  let bracketed := dashes.isEmpty && cs.head? = some ']'
  let cs := if bracketed then m.skip (cs.drop 1) else cs
  if cs.isEmpty ∨ (negated ∧ !m.unicode) ∨ m.needsFolding then none
  else
    let members := if bracketed then Sequence.empty.push 0 else dashes.foldl (fun s _ => s.push 0) .empty
    some (⟨none, members⟩, cs)

/-- Reads on to the end of the outermost class, which is given with how deep it is. -/
def read (m : Mode) : Nat → OpenClass → List OpenClass → List Char → Option (Nat × List Char)
  | 0, _, _, _ => none
  | fuel + 1, o, outer, cs =>
    match m.skip cs with
    | [] => none
    | '[' :: rest =>
      match posixClass rest with
      | some (negated, rest) =>
        if negated && !m.unicode then none else read m fuel (o.push 0) outer rest
      | none => (start m rest).bind fun (inner, rest) => read m fuel inner (o :: outer) rest
    | ']' :: rest =>
      match outer with
      | [] => some (o.depth + 1, rest)
      | around :: outer => read m fuel (around.push (o.depth + 1)) outer rest
    | c :: rest =>
      if "&-~".toList.contains c ∧ rest.head? = some c then read m fuel o.operate outer (rest.drop 1)
      else (range m (c :: rest)).bind fun rest => read m fuel (o.push 0) outer rest

end OpenClass

/-- Reads a class behind its bracket, and tells how deep it is. -/
def bracketClass (m : Mode) (cs : List Char) : Option (Nat × List Char) :=
  (OpenClass.start m cs).bind fun (o, rest) => o.read m (rest.length + 1) [] rest

/-! ## Groups -/

/-- Reads flags up to a colon or a closing parenthesis, which is given with what follows; `seen`
    holds those so far. -/
def flags (m : Mode) (seen : List Char) : List Char → Option (Mode × List Char × Char × List Char)
  | [] => none
  | c :: rest =>
    if c = ':' ∨ c = ')' then
      if seen.head? = some '-' then none else some (m, seen, c, rest)
    else if seen.contains c ∨ !"-imsUuRx".toList.contains c then none
    else flags (if c = '-' then m else m.set c (!seen.contains '-')) (c :: seen) rest

/-- The innermost open group, or the whole pattern. -/
structure Scope where
  mode : Mode
  /-- The deepest of the alternatives before the last. -/
  alternatives : Option Nat
  /-- The last alternative. -/
  sequence : Sequence

namespace Scope

def start (m : Mode) : Scope := ⟨m, none, .empty⟩

def push (s : Scope) (depth : Nat) : Scope := { s with sequence := s.sequence.push depth }

def depth (s : Scope) : Nat :=
  match s.alternatives with
  | none => s.sequence.depth
  | some d => max d s.sequence.depth + 1

/-- Begins the next alternative. -/
def alternate (s : Scope) : Scope :=
  { s with
    alternatives := s.alternatives.merge max (some s.sequence.depth)
    sequence := .empty }

end Scope

/-- A pattern up to some character. -/
structure Reading where
  scope : Scope
  /-- The groups around the innermost one. -/
  outer : List Scope
  /-- The names of groups. -/
  names : List (List Char)
  /-- Whether something stands here that can be repeated. -/
  operand : Bool

namespace Reading

def start : Reading := ⟨.start .default, [], [], false⟩

def mode (r : Reading) : Mode := r.scope.mode

/-- Opens a group in a mode. -/
def enter (r : Reading) (m : Mode) : Reading :=
  { r with scope := .start m, outer := r.scope :: r.outer, operand := false }

/-- Opens a group that has a name, which is new. -/
def named (r : Reading) (cs : List Char) : Option (Reading × List Char) :=
  let name := cs.takeWhile (· ≠ '>')
  let isName := match name with
    | [] => false
    | c :: rest =>
      (c = '_' || Text.isAlphabetic c) &&
        rest.all fun c => "_.[]".toList.contains c || Text.isAlphanumeric c
  match cs.drop name.length with
  | '>' :: rest =>
    if isName && !r.names.contains name then
      some ({ r.enter r.mode with names := name :: r.names }, rest)
    else none
  | _ => none

/-- Reads on behind something that can be repeated and is so deep. -/
def behind (r : Reading) (depth : Nat) (rest : List Char) : Option (Reading × List Char) :=
  some ({ r with scope := r.scope.push depth, operand := true }, rest)

/-- Reads on behind an opening parenthesis. -/
def group (r : Reading) (cs : List Char) : Option (Reading × List Char) :=
  match r.mode.skip cs with
  | '?' :: 'P' :: '<' :: rest => r.named rest
  | '?' :: '<' :: rest => r.named rest
  | '?' :: rest =>
    match flags r.mode [] rest with
    | none => none
    | some (m, seen, c, rest) =>
      if c = ':' then some (r.enter m, rest)
      else if seen.isEmpty then none
      else some ({ r with scope := { r.scope.push 0 with mode := m }, operand := false }, rest)
  | rest => some (r.enter r.mode, rest)

/-- Reads on behind a closing parenthesis. -/
def leave (r : Reading) (rest : List Char) : Option (Reading × List Char) :=
  match r.outer with
  | [] => none
  | scope :: outer => { r with scope, outer }.behind (r.scope.depth + 1) rest

/-- Reads on behind a mark of repetition, which another may follow. -/
def again (r : Reading) (rest : List Char) : Option (Reading × List Char) :=
  if r.operand then
    some ({ r with scope := { r.scope with sequence := r.scope.sequence.wrapLast } },
      if rest.head? = some '?' then rest.drop 1 else rest)
  else none

/-- Reads what begins with `c`. -/
def step (r : Reading) (c : Char) (rest : List Char) : Option (Reading × List Char) :=
  if c = '(' then r.group rest
  else if c = ')' then r.leave rest
  else if c = '|' then some ({ r with scope := r.scope.alternate, operand := false }, rest)
  else if c = '[' then (bracketClass r.mode rest).bind fun (depth, rest) => r.behind depth rest
  else if "?*+".toList.contains c then r.again rest
  else if c = '\x7b' then none
  else if c = '\\' then
    match escape r.mode rest with
    | none => none
    | some (.literal _, rest) => if r.mode.needsFolding then none else r.behind 0 rest
    | some (_, rest) => r.behind 0 rest
  else if c = '.' then if r.mode.unicode then r.behind 0 rest else none
  else if c = '^' ∨ c = '$' then r.behind 0 rest
  else if r.mode.needsFolding then none
  else r.behind 0 rest

/-- Reads the rest. -/
def finishes (r : Reading) : Nat → List Char → Bool
  | 0, _ => false
  | fuel + 1, cs =>
    match r.mode.skip cs with
    | [] => r.outer.isEmpty && r.scope.depth ≤ maxDepth
    | c :: rest =>
      match r.step c rest with
      | none => false
      | some (r, rest) => r.finishes fuel rest

end Reading

/-- Whether a text is a pattern. -/
def isValid (cs : List Char) : Bool := Reading.start.finishes (cs.length + 1) cs

end Passage.Log.Pattern
