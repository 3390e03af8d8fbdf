/- The tokens of YAML texts. -/
namespace Passage.Yaml

/-- How a scalar is written. -/
inductive ScalarStyle where
  | plain
  | quoted
  | literal
  | folded
  deriving DecidableEq, Repr

inductive Token where
  | version (major minor : Nat)
  /-- A tag handle, and what it stands for. -/
  | tagHandle (handle stem : List Char)
  | documentStart
  | documentEnd
  | blockSequenceStart
  | blockMappingStart
  | blockEnd
  | flowSequenceStart
  | flowSequenceEnd
  | flowMappingStart
  | flowMappingEnd
  | blockEntry
  | flowEntry
  | key
  | value
  | alias (name : List Char)
  | anchor (name : List Char)
  /-- A tag as its handle and the rest; the handle of a tag in full is empty. -/
  | tag (handle suffix : List Char)
  | scalar (style : ScalarStyle) (text : List Char)
  deriving DecidableEq, Repr

/-- Whether a token belongs to the head of a document. -/
def Token.isDirective : Token → Bool
  | version .. | tagHandle .. => true
  | _ => false

end Passage.Yaml
