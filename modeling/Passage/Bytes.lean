/- Byte strings as lists of octets, what they spell in UTF-8, and numbers in them.

   `ofText` is the UTF-8 form of a text and `text?` reads it back; a byte
   string that is no UTF-8 has no text. `LittleEndian` writes numbers in a
   fixed width, the least significant byte first. -/
namespace Passage

abbrev Bytes := List UInt8

/-- How many numbers 64 bits count: 2 to the power 64. -/
abbrev wordLimit : Nat := 18446744073709551616

namespace Bytes

/-- The UTF-8 form of a text. -/
def ofText (s : String) : Bytes := s.toByteArray.data.toList

/-- The text that a byte string spells in UTF-8. -/
def text? (b : Bytes) : Option String := String.fromUTF8? ⟨b.toArray⟩

/-- Whether a byte is one of the ASCII digits. -/
def isDigit (b : UInt8) : Bool := 48 ≤ b && b ≤ 57

end Bytes

namespace LittleEndian

/-- The low `width` bytes of `n`. -/
def encode : Nat → Nat → Bytes
  | 0, _ => []
  | width + 1, n => UInt8.ofNat (n % 256) :: encode width (n / 256)

def decode : Bytes → Nat
  | [] => 0
  | b :: rest => b.toNat + 256 * decode rest

end LittleEndian
end Passage
