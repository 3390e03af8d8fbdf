import Passage.Binary64
import Passage.Bytes
import Passage.Log.Pattern

/- Fields that a log event must have, with a certain value or with any.

   A value is read as a truth value, a whole number or a number with a point
   if it can be, and otherwise as a pattern. -/
namespace Passage.Log

inductive FieldValue where
  | truth (b : Bool)
  | number (x : Binary64)
  | notANumber
  | negative (n : Int)
  | natural (n : Nat)
  | pattern (text : String)
  deriving DecidableEq, Repr

namespace FieldValue

/-- A whole number that fits 64 bits, of which one is for the sign if that is a minus sign. -/
def whole? (cs : List Char) : Option FieldValue :=
  let digits := if cs.head? = some '-' ∨ cs.head? = some '+' then cs.drop 1 else cs
  let n := Text.decimal digits
  if digits.isEmpty || !digits.all Char.isDigit then none
  else if cs.head? = some '-' then
    if 2 * n ≤ wordLimit then some (.negative (-n)) else none
  else if n < wordLimit then some (.natural n)
  else none

def ofText? (s : String) : Option FieldValue :=
  let cs := s.toList
  if s = "true" then some (.truth true)
  else if s = "false" then some (.truth false)
  else
    match whole? cs with
    | some value => some value
    | none =>
      match Binary64.ofText? cs with
      | some (.number x) => some (.number x)
      | some .notANumber => some .notANumber
      | none => if Pattern.isValid cs then some (.pattern s) else none

def describe : FieldValue → String
  | truth b => toString b
  | number x => x.text
  | notANumber => "NaN"
  | negative n => toString n
  | natural n => toString n
  | pattern text => text

/-- The place of a value's kind. -/
def kind : FieldValue → Nat
  | truth _ => 0
  | number _ => 1
  | notANumber => 2
  | natural _ => 3
  | negative _ => 4
  | pattern _ => 5

/-- Orders values by their kinds, and those of one kind as it does. -/
def order (v w : FieldValue) : Ordering :=
  match v, w with
  | truth a, truth b => compare a b
  | number x, number y => x.order y
  | negative m, negative n => compare m n
  | natural m, natural n => compare m n
  | pattern s, pattern t => compare s t
  | v, w => compare v.kind w.kind

end FieldValue

structure Field where
  name : String
  /-- The value that is asked for, if one is. -/
  value : Option FieldValue
  deriving DecidableEq, Repr

namespace Field

/-- Reads a name, and a value between the first sign of equality and the next. -/
def ofText? (s : String) : Option Field :=
  match s.splitOn "=" with
  | name :: value :: _ => (FieldValue.ofText? value).map fun v => ⟨name, some v⟩
  | _ => some ⟨s, none⟩

def describe (f : Field) : String :=
  match f.value with
  | none => f.name
  | some v => f.name ++ "=" ++ v.describe

/-- Orders fields: those without a value come first, then names decide, then values. -/
def order (f g : Field) : Ordering :=
  match f.value, g.value with
  | none, some _ => .lt
  | some _, none => .gt
  | none, none => compare f.name g.name
  | some v, some w => (compare f.name g.name).then (v.order w)

end Field
end Passage.Log
