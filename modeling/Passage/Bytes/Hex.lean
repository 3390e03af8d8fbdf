import Passage.Bytes

/- Lowercase hexadecimal: two digits a byte, high half first.

   `decode?` takes nothing but `0`-`9` and `a`-`f`, so a byte string has one
   spelling; `decodeExactly?` also fixes how many bytes must come out. -/
namespace Passage.Hex

/-- The digit of a value below sixteen. -/
def digit (n : UInt8) : UInt8 := if n < 10 then 48 + n else 87 + n

/-- The value of a lowercase digit. -/
def value? (c : UInt8) : Option UInt8 :=
  if 48 ≤ c ∧ c ≤ 57 then some (c - 48)
  else if 97 ≤ c ∧ c ≤ 102 then some (c - 87)
  else none

def encode : Bytes → Bytes
  | [] => []
  | b :: rest => digit (b / 16) :: digit (b % 16) :: encode rest

/-- Reads pairs of digits; an odd digit or a foreign byte has no value. -/
def decode? : Bytes → Option Bytes
  | [] => some []
  | [_] => none
  | high :: low :: rest =>
    match value? high, value? low, decode? rest with
    | some h, some l, some bs => some ((16 * h + l) :: bs)
    | _, _, _ => none

/-- Reads a text that must give exactly `n` bytes. -/
def decodeExactly? (n : Nat) (text : Bytes) : Option Bytes :=
  match decode? text with
  | some bs => if bs.length = n then some bs else none
  | none => none

end Passage.Hex
