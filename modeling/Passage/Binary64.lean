import Passage.Text

/- Binary numbers of 64 bits, and their decimal texts.

   The absolute values are counted from zero upwards: 2^52 of them have one
   exponent, and infinity comes last. `ofDecimal` takes the value nearest to a
   decimal number. `text` has the fewest digits that read back, of these the
   ones nearest to the value, and no exponent. -/
namespace Passage

structure Binary64 where
  negative : Bool
  /-- The absolute value by its place among all. -/
  rank : Nat
  deriving DecidableEq, Repr

namespace Binary64

/-- How many values have one exponent. -/
abbrev binade : Nat := 4503599627370496

abbrev infinityRank : Nat := 2047 * binade

/-- The value at a rank in multiples of the least one, which is 2 to the power -1074. -/
def units (rank : Nat) : Nat :=
  if rank < binade then rank else (binade + rank % binade) <<< (rank / binade - 1)

/-! ## From decimal numbers -/

/-- The nearest whole number, of two the even one. -/
def roundDiv (a b : Nat) : Nat :=
  let q := a / b
  let twice := 2 * (a % b)
  if b < twice ∨ (b = twice ∧ q % 2 = 1) then q + 1 else q

/-- The rank of the value nearest to `a / b` times the least one. -/
def nearestRank (a b : Nat) : Nat :=
  let exponent := (a / b).log2 - 52
  min (exponent * binade + roundDiv a (b <<< exponent)) infinityRank

def tenTo (n : Nat) : Nat := Nat.pow 10 n

/-- How many decimal digits a number has. -/
def digitCount (n : Nat) : Nat := (Nat.toDigits 10 n).length

/-- The rank of the value nearest to `n` times ten to the power `e`. Powers that are far out of
    range are not computed. -/
def decimalRank (n : Nat) (e : Int) : Nat :=
  if n = 0 ∨ digitCount n + e < -330 then 0
  else if 310 < digitCount n + e then infinityRank
  else if 0 ≤ e then nearestRank ((n * tenTo e.toNat) <<< 1074) 1
  else nearestRank (n <<< 1074) (tenTo (-e).toNat)

/-- The exponent behind a number, and nothing else. -/
def exponent? : List Char → Option Int
  | [] => some 0
  | c :: rest =>
    let digits := if rest.head? = some '-' ∨ rest.head? = some '+' then rest.drop 1 else rest
    if (c ≠ 'e' ∧ c ≠ 'E') ∨ digits = [] ∨ !digits.all Char.isDigit then none
    else if rest.head? = some '-' then some (-(Text.decimal digits : Int))
    else some (Text.decimal digits)

/-- The rank of an absolute value in decimal: digits with a point anywhere, and an exponent. -/
def rank? (cs : List Char) : Option Nat :=
  let whole := cs.takeWhile Char.isDigit
  let rest := cs.drop whole.length
  let behind := if rest.head? = some '.' then rest.drop 1 else []
  let fraction := behind.takeWhile Char.isDigit
  let rest := if rest.head? = some '.' then behind.drop fraction.length else rest
  if (whole ++ fraction).isEmpty then none
  else (exponent? rest).map fun e =>
    decimalRank (Text.decimal (whole ++ fraction)) (e - fraction.length)

/-- What a text spells. -/
inductive Numeral where
  | number (x : Binary64)
  | notANumber
  deriving DecidableEq, Repr

/-- Reads a text; the names of infinity and of what is no number have letters of either case. -/
def ofText? (cs : List Char) : Option Numeral :=
  let negative := cs.head? = some '-'
  let cs := if negative ∨ cs.head? = some '+' then cs.drop 1 else cs
  let name := String.ofList (cs.map Char.toLower)
  if name = "nan" then some .notANumber
  else if name = "inf" ∨ name = "infinity" then some (.number ⟨negative, infinityRank⟩)
  else (rank? cs).map fun rank => .number ⟨negative, rank⟩

/-! ## To decimal numbers -/

/-- The decimal number of a value that is not zero: the first that reads back among the
    neighbours of the value, for powers of ten from `10 ^ e` down. -/
def shortestFrom (rank : Nat) : Nat → Int → Nat × Int
  | 0, e => (0, e)
  | fuel + 1, e =>
    let step := if 0 ≤ e then (tenTo e.toNat) <<< 1075 else 1 <<< 1075
    let scale := if 0 ≤ e then 1 else tenTo (-e).toNat
    let value := 2 * units rank * scale
    let low := (units (rank - 1) + units rank) * scale
    let high := (units rank + units (rank + 1)) * scale
    let readsBack := fun n : Nat =>
      if rank % 2 = 0 then low ≤ n * step ∧ n * step ≤ high else low < n * step ∧ n * step < high
    let below := value / step
    let nearBelow := value - below * step < (below + 1) * step - value
    if readsBack below ∧ (nearBelow ∨ ¬readsBack (below + 1)) then (below, e)
    else if readsBack (below + 1) then (below + 1, e)
    else shortestFrom rank fuel (e - 1)

/-- `n` times ten to the power `e` without an exponent, and without needless zeros at the end. -/
def positional (n : Nat) (e : Int) : String :=
  let digits := Nat.toDigits 10 n
  if 0 ≤ e then String.ofList (digits ++ List.replicate e.toNat '0')
  else
    let places := (-e).toNat
    let digits := List.replicate (places + 1 - digits.length) '0' ++ digits
    let fraction := (digits.drop (digits.length - places)).reverse.dropWhile (· = '0') |>.reverse
    let whole := digits.take (digits.length - places)
    String.ofList (if fraction.isEmpty then whole else whole ++ '.' :: fraction)

def text (x : Binary64) : String :=
  let sign := if x.negative then "-" else ""
  if x.rank = 0 then sign ++ "0"
  else if x.rank = infinityRank then sign ++ "inf"
  else
    let (n, e) := shortestFrom x.rank 700 309
    sign ++ positional n e

/-- Orders numbers by their values: the two zeros are equal. -/
def order (x y : Binary64) : Ordering :=
  let value := fun z : Binary64 => if z.negative then -(z.rank : Int) else z.rank
  compare (value x) (value y)

end Binary64
end Passage
