import Passage.Hash.Sha256

/- HMAC with SHA-256: a message's tag under a key.

   `tag` takes a message at once. A `Stream` takes it in pieces; it keeps the
   two keyed starts, so that it can begin again without the key. -/
namespace Passage.Hmac

/-- The key as one block; a key longer than that is hashed first. -/
def keyBlock (key : Bytes) : Bytes :=
  let key := if key.length > 64 then Sha256.digest key else key
  key ++ List.replicate (64 - key.length) 0

def innerPad (key : Bytes) : Bytes := (keyBlock key).map (· ^^^ 0x36)

def outerPad (key : Bytes) : Bytes := (keyBlock key).map (· ^^^ 0x5c)

def tag (key message : Bytes) : Bytes :=
  Sha256.digest (outerPad key ++ Sha256.digest (innerPad key ++ message))

/-- A message in the making under a key. -/
structure Stream where
  innerStart : Sha256.Stream
  outerStart : Sha256.Stream
  inner : Sha256.Stream
  deriving DecidableEq, Repr

namespace Stream

def keyed (key : Bytes) : Stream :=
  let inner := Sha256.Stream.start.absorb (innerPad key)
  ⟨inner, Sha256.Stream.start.absorb (outerPad key), inner⟩

def absorb (s : Stream) (piece : Bytes) : Stream := { s with inner := s.inner.absorb piece }

/-- Forgets what was absorbed; the key stays. -/
def reset (s : Stream) : Stream := { s with inner := s.innerStart }

/-- The tag of all that was absorbed, and a new start. -/
def finish (s : Stream) : Bytes × Stream :=
  ((s.outerStart.absorb s.inner.value).value, s.reset)

end Stream
end Passage.Hmac
