import Passage.Buffer
import Passage.Bytes
import Passage.Bytes.Hex
import Passage.Cursor
import Passage.Hash.Hmac
import Passage.Identity

/- Passage tokens: three lowercase hexadecimal fields joined by `|`.

     <level: 1 byte>|<expiry: 8 bytes, least significant first>|<tag: 32 bytes>

   The tag signs host, address, level and expiry. A check reads level and
   expiry from the token itself: the tag alone binds them to the client. A
   token counts for its own level and for every lower one. -/
namespace Passage.Token

/-- Stands between the fields. -/
abbrev separator : UInt8 := 124

/-- Digits of the level field. -/
abbrev levelDigits : Nat := 2

/-- Digits of the expiry field. -/
abbrev expiryDigits : Nat := 16

/-- Digits of the tag field. -/
abbrev tagDigits : Nat := 64

/-- Bytes of a whole token. -/
abbrev size : Nat := levelDigits + 1 + expiryDigits + 1 + tagDigits

/-- What a token's tag signs. -/
def message (id : Identity) (expiry : Bytes) : Bytes := id.material ++ expiry

/-- A token's fields and separators in order. -/
def pieces (level : UInt8) (expiry tag : Bytes) : List Bytes :=
  [Hex.encode [level], [separator], Hex.encode expiry, [separator], Hex.encode tag]

/-- A whole token. -/
def text (level : UInt8) (expiry tag : Bytes) : Bytes := (pieces level expiry tag).flatten

/-! ## Checking -/

/-- What a check works with: the tag in the making, room for decoded fields, the token. -/
structure Desk where
  mac : Hmac.Stream
  scratch : Buffer
  text : Cursor
  deriving DecidableEq, Repr

/-- A part of a check: it passes with a value or refuses, and leaves its desk either way. -/
abbrev Check := ExceptT Rejection (StateM Desk)

/-- Reads the next `n` bytes of the token. -/
def read (n : Nat) : Check Bytes := ExceptT.mk fun desk =>
  match desk.text.take n with
  | .error shortage => (.error shortage.rejection, desk)
  | .ok (bs, text) => (.ok bs, { desk with text })

/-- Reads a separator. -/
def readSeparator : Check Unit := ExceptT.mk fun desk =>
  let (outcome, text) := desk.text.separator separator
  (outcome, { desk with text })

/-- Reserves room for `n` decoded bytes. -/
def reserve (n : Nat) : Check Unit := ExceptT.mk fun desk =>
  match desk.scratch.reserve n with
  | .error shortage => (.error shortage.rejection, desk)
  | .ok (_, scratch) => (.ok (), { desk with scratch })

/-- Lays decoded bytes into the room reserved last. -/
def lay (bs : Bytes) : Check Unit :=
  modify fun desk => { desk with scratch := desk.scratch.fill bs.length bs }

/-- Reads a field of `digits` digits. -/
def field (digits : Nat) : Check Bytes := do
  let spelled ← read digits
  reserve (spelled.length / 2)
  match Hex.decodeExactly? (spelled.length / 2) spelled with
  | none => throw .malformed
  | some bs =>
    lay bs
    return bs

/-- Feeds bytes to the tag. -/
def feed (bs : Bytes) : Check Unit :=
  modify fun desk => { desk with mac := desk.mac.absorb bs }

/-- The tag of what was fed. -/
def tag : Check Bytes := ExceptT.mk fun desk =>
  let (tag, mac) := desk.mac.finish
  (.ok tag, { desk with mac })

/-- Refuses the token if a condition holds. -/
def refuseIf (condition : Bool) (r : Rejection) : Check Unit :=
  if condition then throw r else pure ()

/-- Reads the field of one byte. -/
def byteField : Check UInt8 := do
  match ← field levelDigits with
  | [level] => return level
  | _ => throw .malformed

/-- Checks a token of the right size for an identity, at second `now`. -/
def check (now : Nat) (id : Identity) : Check Unit := do
  feed id.origin
  let level ← byteField
  refuseIf (level < id.level) .levelTooLow
  feed [level]
  readSeparator
  let expiry ← field expiryDigits
  refuseIf (LittleEndian.decode expiry < now) .expired
  feed expiry
  readSeparator
  let expected ← tag
  let given ← field tagDigits
  refuseIf (expected ≠ given) .invalidHmac

end Passage.Token
