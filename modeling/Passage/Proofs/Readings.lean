import Passage.Cursor

/- A cursor reads its data once and in order.

   `Reading` has no position: it is what was read so far and what is left.
   1. What was read and what is left is the data, after any calls (`Reading.whole_run`).
   2. `Reading.cursor` is the cursor that stands between the two. A call does to it what it
      does to the reading and is answered alike (`Reading.apply_cursor`), so the cursor after
      some calls stands where their reading does (`Reading.run_cursor`).
   3. All that a caller can notice of a cursor follows from its reading
      (`reads_in_order`): which calls fail, what the others give, and where each of
      them leaves the cursor. -/
namespace Passage.Cursor

/-- Bytes that are read in their order. -/
structure Reading where
  /-- What was read. -/
  got : Bytes
  /-- What is left. -/
  left : Bytes
  deriving DecidableEq, Repr

namespace Reading

def ofBytes (data : Bytes) : Reading := ⟨[], data⟩

def whole (r : Reading) : Bytes := r.got ++ r.left

/-- The next `n` bytes are read, or all if there are fewer. -/
def advance (r : Reading) (n : Nat) : Reading := ⟨r.got ++ r.left.take n, r.left.drop n⟩

/-- One call on a reading. A separator is read whether it is the right one or not. -/
def apply (r : Reading) : Op → Reply × Reading
  | .take n =>
    if n ≤ r.left.length then (.bytes (r.left.take n), r.advance n)
    else (.failed (.underflow n r.left.length), r)
  | .separator mark =>
    (.checked (if r.left.head? = some mark then .ok () else .error .malformed), r.advance 1)
  | .rest => (.bytes r.left, ⟨r.whole, []⟩)

def run (r : Reading) (ops : List Op) : Reading :=
  ops.foldl (fun r op => (r.apply op).2) r

/-! Nothing is lost. -/

@[simp] theorem whole_advance (r : Reading) (n : Nat) : (r.advance n).whole = r.whole := by
  simp [whole, advance]

theorem whole_apply (r : Reading) (op : Op) : (r.apply op).2.whole = r.whole := by
  cases op with
  | take n =>
    rw [apply]
    split
    · exact r.whole_advance n
    · rfl
  | separator mark => exact r.whole_advance 1
  | rest => exact List.append_nil _

theorem whole_run (r : Reading) (ops : List Op) : (r.run ops).whole = r.whole := by
  induction ops generalizing r with
  | nil => rfl
  | cons op ops ih => exact (ih _).trans (r.whole_apply op)

/-! The cursor of a reading. -/

/-- The cursor that stands between what was read and what is left. -/
def cursor (r : Reading) : Cursor := ⟨r.whole, r.got.length⟩

@[simp] theorem drop_whole (r : Reading) : r.whole.drop r.got.length = r.left :=
  List.drop_left

@[simp] theorem remaining_cursor (r : Reading) : r.cursor.remaining = r.left.length := by
  simp [Cursor.remaining, cursor, whole]

theorem cursor_advance {r : Reading} {n : Nat} (h : n ≤ r.left.length) :
    (r.advance n).cursor = ⟨r.whole, r.got.length + n⟩ := by
  simp [cursor, advance, whole, h]

theorem take_cursor (r : Reading) (n : Nat) : r.cursor.take n =
    if n ≤ r.left.length then .ok (r.left.take n, (r.advance n).cursor)
    else .error (.underflow n r.left.length) := by
  rw [Cursor.take, remaining_cursor]
  by_cases h : n ≤ r.left.length
  · rw [if_neg (Nat.not_lt.mpr h), if_pos h, cursor_advance h]
    simp [cursor]
  · rw [if_pos (Nat.lt_of_not_le h), if_neg h]

theorem separator_cursor (r : Reading) (mark : UInt8) : r.cursor.separator mark =
    (if r.left.head? = some mark then .ok () else .error .malformed, (r.advance 1).cursor) := by
  rw [Cursor.separator, take_cursor]
  obtain ⟨got, left⟩ := r
  cases left with
  | nil => simp [advance, Shortage.rejection]
  | cons b left => simp

/-- A call does to the cursor what it does to the reading, and is answered alike. -/
theorem apply_cursor (r : Reading) (op : Op) :
    r.cursor.apply op = ((r.apply op).1, (r.apply op).2.cursor) := by
  cases op with
  | take n =>
    rw [Cursor.apply, apply, take_cursor]
    by_cases h : n ≤ r.left.length
    · simp only [if_pos h]
    · simp only [if_neg h]
  | separator mark => rw [Cursor.apply, apply, separator_cursor]
  | rest => simp [Cursor.apply, Cursor.rest, apply, cursor, whole]

theorem run_cursor (r : Reading) (ops : List Op) : r.cursor.run ops = (r.run ops).cursor := by
  -- Refused calls need no case of their own: they too take the cursor where the reading goes.
  induction ops generalizing r with
  | nil => rfl
  | cons op ops ih =>
    show (r.cursor.apply op).2.run ops = _
    rw [apply_cursor]
    exact ih _

end Reading

/-- The cursor stands between what was read and what is left of its data. -/
structure StandsAt (c : Cursor) (r : Reading) : Prop where
  read_eq : c.data.take c.position = r.got
  left_eq : c.data.drop c.position = r.left
  remaining_eq : c.remaining = r.left.length

/-- A call to take so many bytes gives exactly the next ones, or fails with the exact numbers where
so many are not left and then moves nothing. -/
structure Takes (c : Cursor) (r : Reading) (n : Nat) : Prop where
  ok_iff : ∀ bs, (c.apply (.take n)).1 = .bytes bs ↔ n ≤ c.remaining ∧ bs = r.left.take n
  failed_iff : ∀ shortage, (c.apply (.take n)).1 = .failed shortage ↔
    c.remaining < n ∧ shortage = .underflow n c.remaining
  moves : n ≤ c.remaining →
    (c.apply (.take n)).2.StandsAt ⟨r.got ++ r.left.take n, r.left.drop n⟩
  stays : c.remaining < n → (c.apply (.take n)).2 = c

/-- A separator is right exactly if it is the next byte. The next byte is read in any case, where
there is one. -/
structure Separates (c : Cursor) (r : Reading) (mark : UInt8) : Prop where
  ok_iff : (c.apply (.separator mark)).1 = .checked (.ok ()) ↔ r.left.head? = some mark
  malformed_iff :
    (c.apply (.separator mark)).1 = .checked (.error .malformed) ↔ r.left.head? ≠ some mark
  moves : ∀ b rest, r.left = b :: rest →
    (c.apply (.separator mark)).2.StandsAt ⟨r.got ++ [b], rest⟩
  stays : r.left = [] → (c.apply (.separator mark)).2 = c

/-- All that is left is read at once. -/
structure Ends (c : Cursor) (r : Reading) : Prop where
  all : (c.apply .rest).1 = .bytes r.left
  moves : (c.apply .rest).2.StandsAt ⟨r.got ++ r.left, []⟩
  none_left : (c.apply .rest).2.remaining = 0

theorem standsAt_cursor (r : Reading) : r.cursor.StandsAt r where
  read_eq := List.take_left
  left_eq := r.drop_whole
  remaining_eq := r.remaining_cursor

theorem takes_cursor (r : Reading) (n : Nat) : r.cursor.Takes r n := by
  have hcall := r.apply_cursor (.take n)
  rw [Reading.apply] at hcall
  by_cases h : n ≤ r.left.length
  · rw [if_pos h] at hcall
    have hle : ¬r.left.length < n := Nat.not_lt.mpr h
    refine ⟨fun bs => ?_, fun shortage => ?_, fun _ => ?_, fun hlt => ?_⟩
    · simp [hcall, h, eq_comm]
    · simp [hcall, hle]
    · rw [hcall]
      exact standsAt_cursor (r.advance n)
    · exact absurd (r.remaining_cursor ▸ hlt) hle
  · rw [if_neg h] at hcall
    refine ⟨fun bs => ?_, fun shortage => ?_, fun hle => ?_, fun _ => ?_⟩
    · simp [hcall, h]
    · simp [hcall, Nat.lt_of_not_le h, eq_comm]
    · exact absurd (r.remaining_cursor ▸ hle) h
    · rw [hcall]

theorem separates_cursor (r : Reading) (mark : UInt8) : r.cursor.Separates r mark := by
  have hcall := r.apply_cursor (.separator mark)
  rw [Reading.apply] at hcall
  refine ⟨?_, ?_, fun b rest hleft => ?_, fun hleft => ?_⟩
  · by_cases h : r.left.head? = some mark <;> simp [hcall, h]
  · by_cases h : r.left.head? = some mark <;> simp [hcall, h]
  · rw [hcall]
    have hnext := standsAt_cursor (r.advance 1)
    simpa [Reading.advance, hleft] using hnext
  · rw [hcall]
    simp [Reading.advance, Reading.cursor, Reading.whole, hleft]

theorem ends_cursor (r : Reading) : r.cursor.Ends r := by
  have hcall := r.apply_cursor .rest
  rw [Reading.apply] at hcall
  refine ⟨?_, ?_, ?_⟩
  · rw [hcall]
  · rw [hcall]
    exact standsAt_cursor ⟨r.whole, []⟩
  · rw [hcall]
    exact Reading.remaining_cursor _

/-- The cursor stands where the reading does and every call is answered as the reading answers it;
what the calls answer and where they leave the cursor. -/
structure Follows (c : Cursor) (r : Reading) : Prop where
  stands : c.StandsAt r
  same : ∀ op, (c.apply op).1 = (r.apply op).1 ∧ (c.apply op).2.StandsAt (r.apply op).2
  takes : ∀ n, c.Takes r n
  separates : ∀ mark, c.Separates r mark
  ends : c.Ends r

/-- **A cursor loses, repeats and invents nothing.** Whatever calls were made on it and whichever of
them failed, what was read and what is left make up the data, and the next call goes on from
there. -/
theorem reads_in_order (data : Bytes) (ops : List Op) :
    ((Reading.ofBytes data).run ops).got ++ ((Reading.ofBytes data).run ops).left = data ∧
      ((ofBytes data).run ops).data = data ∧
      ((ofBytes data).run ops).Follows ((Reading.ofBytes data).run ops) := by
  have hwhole : ((Reading.ofBytes data).run ops).whole = data :=
    (Reading.ofBytes data).whole_run ops
  have hcursor : (ofBytes data).run ops = ((Reading.ofBytes data).run ops).cursor :=
    (Reading.ofBytes data).run_cursor ops
  rw [hcursor]
  generalize (Reading.ofBytes data).run ops = r at hwhole
  refine ⟨hwhole, hwhole, ?_⟩
  exact {
    stands := standsAt_cursor r
    same := fun op => by
      rw [r.apply_cursor]
      exact ⟨rfl, standsAt_cursor _⟩
    takes := takes_cursor r
    separates := separates_cursor r
    ends := ends_cursor r }

end Passage.Cursor
