import Passage.Bytes
import Passage.Rejection

/- A buffer of fixed capacity with a write mark and a read mark.

   Cells `[0, written)` hold what was written since the last `clear`, of
   which `[0, taken)` has been read. Reading gives no room back. `clear`
   only blanks the written cells: that the others are blank already is what
   every operation keeps. A request that does not fit changes nothing. -/
namespace Passage

structure Buffer where
  cells : Bytes
  taken : Nat
  written : Nat
  deriving DecidableEq, Repr

namespace Buffer

/-- A blank buffer. -/
def ofCapacity (capacity : Nat) : Buffer :=
  ⟨List.replicate capacity 0, 0, 0⟩

def capacity (b : Buffer) : Nat := b.cells.length

/-- Cells not yet written. -/
def room (b : Buffer) : Nat := b.capacity - b.written

/-- Bytes written and not yet read. -/
def size (b : Buffer) : Nat := b.written - b.taken

def isEmpty (b : Buffer) : Bool := b.size == 0

/-- The bytes written and not yet read. -/
def readable (b : Buffer) : Bytes := (b.cells.drop b.taken).take b.size

/-- Moves the write mark over the next `n` cells and shows what they hold. -/
def reserve (b : Buffer) (n : Nat) : Except Shortage (Bytes × Buffer) :=
  if n > b.room then .error (.overflow n b.room)
  else .ok ((b.cells.drop b.written).take n, { b with written := b.written + n })

/-- Lays `bs` over the last `n` reserved cells, as far as they reach. -/
def fill (b : Buffer) (n : Nat) (bs : Bytes) : Buffer :=
  let start := b.written - n
  let area := (b.cells.drop start).take n
  { b with
    cells := b.cells.take start ++ (bs.take area.length ++ area.drop bs.length)
      ++ b.cells.drop b.written }

/-- Reserves `n` cells and writes into them what the caller makes of their content,
    which is the answer. -/
def claim (b : Buffer) (n : Nat) (make : Bytes → Bytes) : Except Shortage (Bytes × Buffer) :=
  match b.reserve n with
  | .error shortage => .error shortage
  | .ok (area, b) => .ok (area, b.fill n (make area))

/-- Appends `bs`, all of it or nothing. -/
def write (b : Buffer) (bs : Bytes) : Except Shortage Buffer :=
  match b.claim bs.length fun _ => bs with
  | .error shortage => .error shortage
  | .ok (_, b) => .ok b

/-- Appends pieces in order up to the first that does not fit; the earlier ones stay. -/
def writeAll (b : Buffer) : List Bytes → Except Shortage Unit × Buffer
  | [] => (.ok (), b)
  | piece :: rest =>
    match b.write piece with
    | .error shortage => (.error shortage, b)
    | .ok b => b.writeAll rest

/-- Reads the next `n` written bytes. -/
def take (b : Buffer) (n : Nat) : Except Shortage (Bytes × Buffer) :=
  if n > b.size then .error (.underflow n b.size)
  else .ok ((b.cells.drop b.taken).take n, { b with taken := b.taken + n })

/-- Blanks the written cells and takes both marks back. -/
def clear (b : Buffer) : Buffer :=
  ⟨List.replicate b.written 0 ++ b.cells.drop b.written, 0, 0⟩

/-! ## Runs -/

/-- One call on a buffer. -/
inductive Op where
  | write (bs : Bytes)
  | claim (n : Nat) (make : Bytes → Bytes)
  | take (n : Nat)
  | clear
  /-- Looks, and changes nothing. -/
  | look

/-- What a call gives back. -/
inductive Reply where
  | done
  | bytes (bs : Bytes)
  | failed (shortage : Shortage)
  deriving DecidableEq, Repr

/-- One call; a failing one leaves the buffer as it was. -/
def apply (b : Buffer) : Op → Reply × Buffer
  | .write bs =>
    match b.write bs with
    | .error shortage => (.failed shortage, b)
    | .ok b => (.done, b)
  | .claim n make =>
    match b.claim n make with
    | .error shortage => (.failed shortage, b)
    | .ok (area, b) => (.bytes area, b)
  | .take n =>
    match b.take n with
    | .error shortage => (.failed shortage, b)
    | .ok (bs, b) => (.bytes bs, b)
  | .clear => (.done, b.clear)
  | .look => (.done, b)

/-- The buffer after a list of calls. -/
def run (b : Buffer) (ops : List Op) : Buffer :=
  ops.foldl (fun b op => (b.apply op).2) b

end Buffer
end Passage
