import Passage.Bytes

/- Base64 with the standard alphabet: four symbols for three bytes.

   `encode` pads the last four symbols with `=`. `decode` takes exactly what
   `encode` writes: padding is required, and the bits that the last symbol
   does not need must be zero. Otherwise it names the first thing wrong with
   the whole quads, then with the last one. -/
namespace Passage.Base64

/-- The padding symbol. -/
abbrev pad : UInt8 := 61

/-- The symbol of a value below 64. -/
def symbol (n : Nat) : UInt8 :=
  if n < 26 then UInt8.ofNat (65 + n)
  else if n < 52 then UInt8.ofNat (71 + n)
  else if n < 62 then UInt8.ofNat (n - 4)
  else if n = 62 then 43
  else 47

/-- The value of a symbol, padding excluded. -/
def value? (c : UInt8) : Option Nat :=
  if 65 ≤ c ∧ c ≤ 90 then some (c.toNat - 65)
  else if 97 ≤ c ∧ c ≤ 122 then some (c.toNat - 71)
  else if 48 ≤ c ∧ c ≤ 57 then some (c.toNat + 4)
  else if c = 43 then some 62
  else if c = 47 then some 63
  else none

def encode : Bytes → Bytes
  | [] => []
  | [a] => [symbol (a.toNat / 4), symbol (a.toNat % 4 * 16), pad, pad]
  | [a, b] =>
    [symbol (a.toNat / 4), symbol (a.toNat % 4 * 16 + b.toNat / 16), symbol (b.toNat % 16 * 4), pad]
  | a :: b :: c :: rest =>
    symbol (a.toNat / 4) :: symbol (a.toNat % 4 * 16 + b.toNat / 16) ::
      symbol (b.toNat % 16 * 4 + c.toNat / 64) :: symbol (c.toNat % 64) :: encode rest

/-- What is wrong with a text; offsets count bytes. -/
inductive Fault where
  | invalidSymbol (byte : UInt8) (offset : Nat)
  | invalidLength (size : Nat)
  | invalidLastSymbol (byte : UInt8) (offset : Nat)
  | invalidPadding
  deriving DecidableEq, Repr

def Fault.message : Fault → String
  | invalidSymbol byte offset => s!"Invalid symbol {byte}, offset {offset}."
  | invalidLength size => s!"Invalid input length: {size}"
  | invalidLastSymbol byte offset => s!"Invalid last symbol {byte}, offset {offset}."
  | invalidPadding => "Invalid padding"

/-- The values of symbols from `offset` on, none of which may be padding. -/
def values (offset : Nat) : Bytes → Except Fault (List Nat)
  | [] => .ok []
  | c :: rest =>
    match value? c with
    | none => .error (.invalidSymbol c offset)
    | some v =>
      match values (offset + 1) rest with
      | .error fault => .error fault
      | .ok vs => .ok (v :: vs)

/-- The bytes of the values of one quad; what does not fill a byte is dropped. -/
def pack : List Nat → Bytes
  | [a, b] => [UInt8.ofNat (a * 4 + b / 16)]
  | [a, b, c] => [UInt8.ofNat (a * 4 + b / 16), UInt8.ofNat (b % 16 * 16 + c / 4)]
  | [a, b, c, d] =>
    [UInt8.ofNat (a * 4 + b / 16), UInt8.ofNat (b % 16 * 16 + c / 4), UInt8.ofNat (c % 4 * 64 + d)]
  | _ => []

/-- The bits of the last value that fill no byte. -/
def unused : List Nat → Nat
  | [_, b] => b % 16
  | [_, _, c] => c % 4
  | _ => 0

/-- Reads the last one to four bytes of a text, which stand at `offset`. -/
def decodeLast (offset : Nat) (quad : Bytes) : Except Fault Bytes :=
  let symbols := quad.takeWhile (· ≠ pad)
  let pads := quad.dropWhile (· ≠ pad)
  match values offset symbols with
  | .error fault => .error fault
  | .ok vs =>
    if pads ≠ [] ∧ (vs.length < 2 ∨ pads.any (· ≠ pad)) then
      .error (.invalidSymbol pad (offset + vs.length))
    else if vs.length < 2 then .error (.invalidLength (offset + vs.length))
    else if vs.length + pads.length ≠ 4 then .error .invalidPadding
    else if unused vs ≠ 0 then
      .error (.invalidLastSymbol (symbols.getLastD 0) (offset + vs.length - 1))
    else .ok (pack vs)

/-- Reads a text whose first byte stands at `offset`, quad by quad. -/
def decodeFrom (offset : Nat) : Bytes → Except Fault Bytes
  | [] => .ok []
  | a :: b :: c :: d :: e :: rest =>
    match values offset [a, b, c, d] with
    | .error fault => .error fault
    | .ok vs =>
      match decodeFrom (offset + 4) (e :: rest) with
      | .error fault => .error fault
      | .ok bs => .ok (pack vs ++ bs)
  | quad => decodeLast offset quad

/-- Reads a text; a foreign byte left over behind whole quads is noticed before all else. -/
def decode (text : Bytes) : Except Fault Bytes :=
  match text.getLast? with
  | none => .ok []
  | some c =>
    if text.length % 4 = 1 ∧ c ≠ pad ∧ value? c = none then
      .error (.invalidSymbol c (text.length - 1))
    else decodeFrom 0 text

end Passage.Base64
