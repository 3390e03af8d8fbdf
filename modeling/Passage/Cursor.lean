import Passage.Bytes
import Passage.Rejection

/- A reading position in a byte string.

   Nothing is lost and nothing is read twice: what was read and what is left
   make up the data. A separator that is not the expected one has been read
   all the same. -/
namespace Passage

structure Cursor where
  data : Bytes
  position : Nat
  deriving DecidableEq, Repr

namespace Cursor

/-- The start of `data`. -/
def ofBytes (data : Bytes) : Cursor := ⟨data, 0⟩

/-- Number of bytes not yet read. -/
def remaining (c : Cursor) : Nat := c.data.length - c.position

/-- Reads the next `n` bytes. -/
def take (c : Cursor) (n : Nat) : Except Shortage (Bytes × Cursor) :=
  if n > c.remaining then .error (.underflow n c.remaining)
  else .ok ((c.data.drop c.position).take n, { c with position := c.position + n })

/-- Reads one byte, which must be `mark`. -/
def separator (c : Cursor) (mark : UInt8) : Outcome × Cursor :=
  match c.take 1 with
  | .error shortage => (.error shortage.rejection, c)
  | .ok (bs, c) => (if bs = [mark] then .ok () else .error .malformed, c)

/-- Reads all that is left. -/
def rest (c : Cursor) : Bytes × Cursor :=
  (c.data.drop c.position, { c with position := c.data.length })

/-! ## Runs -/

/-- One call on a cursor. -/
inductive Op where
  | take (n : Nat)
  | separator (mark : UInt8)
  | rest

/-- What a call gives back. -/
inductive Reply where
  | bytes (bs : Bytes)
  | failed (shortage : Shortage)
  | checked (outcome : Outcome)

def apply (c : Cursor) : Op → Reply × Cursor
  | .take n =>
    match c.take n with
    | .error shortage => (.failed shortage, c)
    | .ok (bs, c) => (.bytes bs, c)
  | .separator mark => let (outcome, c) := c.separator mark; (.checked outcome, c)
  | .rest => let (bs, c) := c.rest; (.bytes bs, c)

/-- The cursor after a list of calls. -/
def run (c : Cursor) (ops : List Op) : Cursor :=
  ops.foldl (fun c op => (c.apply op).2) c

end Cursor
end Passage
