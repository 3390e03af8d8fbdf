/- Characters and texts: white space, digits, sets of characters.

   Sets of characters stand as lists of code point ranges, both ends
   included. What reads a text and gives no value ends in a `Halt`. -/
namespace Passage

/-! ## No value -/

/-- Two ways in which a computation gives no value. -/
inductive Halt (ε : Type) where
  /-- The input is refused, for a reason that can be told. -/
  | refused (reason : ε)
  /-- A sum leaves its range, or a cut falls inside of a character, where nothing checks it, and
      everything ends. -/
  | aborted
  deriving DecidableEq, Repr

/-- Tells the reason in wider terms; an abort stays one. -/
def Halt.map {ε δ : Type} (f : ε → δ) : Halt ε → Halt δ
  | refused reason => refused (f reason)
  | aborted => aborted

namespace Text

/-! ## Sets of characters -/

def inRanges (ranges : List (Nat × Nat)) (c : Char) : Bool :=
  ranges.any fun (first, last) => first ≤ c.toNat && c.toNat ≤ last

/-! ## White space -/

/-- The characters with the property White_Space. -/
def isBlank (c : Char) : Bool :=
  let n := c.val
  (0x9 ≤ n && n ≤ 0xd) || n == 0x20 || n == 0x85 || n == 0xa0 || n == 0x1680 ||
    (0x2000 ≤ n && n ≤ 0x200a) || n == 0x2028 || n == 0x2029 || n == 0x202f || n == 0x205f ||
    n == 0x3000

def trimStart (cs : List Char) : List Char := cs.dropWhile isBlank

def trimEnd (cs : List Char) : List Char := (cs.reverse.dropWhile isBlank).reverse

def trim (cs : List Char) : List Char := trimEnd (trimStart cs)

/-! ## Digits -/

def digitValue (c : Char) : Nat := c.toNat - 48

/-- The number that decimal digits spell, the first the most significant. -/
def decimal (cs : List Char) : Nat := cs.foldl (fun n c => 10 * n + digitValue c) 0

/-- The value of a hexadecimal digit of either case. -/
def hexValue? (c : Char) : Option Nat :=
  if c.isDigit then some (digitValue c)
  else if 'a' ≤ c ∧ c ≤ 'f' then some (c.toNat - 87)
  else if 'A' ≤ c ∧ c ≤ 'F' then some (c.toNat - 55)
  else none

end Text
end Passage
