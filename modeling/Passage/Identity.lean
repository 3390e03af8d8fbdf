import Passage.Bytes

/- Who asks for what: a client's address, the host it visits, the level.

   The signed form of an identity is the host, sixteen address octets and the
   level byte, with nothing between them: the last two have fixed widths. An
   IPv4 address is written in its mapped IPv6 form, so both spellings of such
   a client are one identity. -/
namespace Passage

inductive Address where
  | v4 (a b c d : UInt8)
  | v6 (octets : Vector UInt8 16)
  deriving DecidableEq, Repr

namespace Address

/-- Four octets are an IPv4 address and sixteen an IPv6 address. -/
def ofOctets? (bs : Bytes) : Option Address :=
  match bs with
  | [a, b, c, d] => some (.v4 a b c d)
  | _ => if h : bs.length = 16 then some (.v6 ⟨bs.toArray, by simp [h]⟩) else none

/-- The address as sixteen octets. -/
def octets : Address → Bytes
  | v4 a b c d => [0, 0, 0, 0, 0, 0, 0, 0, 0, 0, 0xff, 0xff, a, b, c, d]
  | v6 octets => octets.toList

def isV4 : Address → Bool
  | v4 .. => true
  | v6 _ => false

end Address

structure Identity where
  address : Address
  host : Bytes
  level : UInt8
  deriving DecidableEq, Repr

namespace Identity

/-- The host and the address, without the level. -/
def origin (id : Identity) : Bytes := id.host ++ id.address.octets

/-- All that a signature binds of an identity. -/
def material (id : Identity) : Bytes := id.origin ++ [id.level]

end Identity
end Passage
