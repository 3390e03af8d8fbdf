import Passage.Pool.Resources
import Passage.Proofs.BufferView

/- A buffer is a queue of bytes that counts what is put in.

   `ByteQueue` has no cells and no marks. It keeps what was put in since the last clear,
   what came out, and what waits in between. Only a clear makes room again.

   1. A queue keeps its order: what came out and what waits is what was put in, and no
      more than its capacity (`Sound.apply`).
   2. `ByteQueue.buffer` lays a queue out in cells. A call does to these cells what it does
      to the queue (`Sound.apply_buffer`), so a new buffer comes to the cells of the queue
      that the same calls lead to (`run_buffer`).
   3. All that a caller can notice of a buffer follows from its queue
      (`Buffer.bounded_queue`): the marks are in order, the cells behind them are blank,
      each call is answered as the queue answers it, and one that fails changes nothing. -/
namespace Passage

/-- Bytes that come out in the order in which they were put in. -/
structure ByteQueue where
  capacity : Nat
  /-- What was put in since the last clear. -/
  put : Bytes
  /-- What came out since the last clear. -/
  got : Bytes
  /-- What is still in there. -/
  waiting : Bytes
  deriving DecidableEq, Repr

namespace ByteQueue

def ofCapacity (capacity : Nat) : ByteQueue := ⟨capacity, [], [], []⟩

/-- How much can be put in until the next clear. What comes out makes no room. -/
def room (q : ByteQueue) : Nat := q.capacity - q.put.length

def push (q : ByteQueue) (bs : Bytes) : ByteQueue :=
  { q with put := q.put ++ bs, waiting := q.waiting ++ bs }

/-- What `n` blank cells hold when `bs` was laid over them, as far as they reach. -/
def laid (n : Nat) (bs : Bytes) : Bytes := bs.take n ++ List.replicate (n - bs.length) 0

/-- One call on a queue: what is too much is refused with the exact numbers. -/
def apply (q : ByteQueue) : Buffer.Op → Buffer.Reply × ByteQueue
  | .write bs =>
    if bs.length ≤ q.room then (.done, q.push bs)
    else (.failed (.overflow bs.length q.room), q)
  | .claim n make =>
    if n ≤ q.room then
      (.bytes (List.replicate n 0), q.push (laid n (make (List.replicate n 0))))
    else (.failed (.overflow n q.room), q)
  | .take n =>
    if n ≤ q.waiting.length then
      (.bytes (q.waiting.take n),
        { q with got := q.got ++ q.waiting.take n, waiting := q.waiting.drop n })
    else (.failed (.underflow n q.waiting.length), q)
  | .clear => (.done, .ofCapacity q.capacity)
  | .look => (.done, q)

def run (q : ByteQueue) (ops : List Buffer.Op) : ByteQueue :=
  ops.foldl (fun q op => (q.apply op).2) q

@[simp] theorem length_laid (n : Nat) (bs : Bytes) : (laid n bs).length = n := by
  rw [laid, List.length_append, List.length_take, List.length_replicate]
  omega

/-! The order of a queue. -/

/-- What came out and what waits is what was put in, in this order, and that is not too much. -/
structure Sound (q : ByteQueue) : Prop where
  order : q.got ++ q.waiting = q.put
  fits : q.put.length ≤ q.capacity

theorem sound_ofCapacity (n : Nat) : (ofCapacity n).Sound := ⟨rfl, Nat.zero_le n⟩

namespace Sound
variable {q : ByteQueue}

theorem push (h : q.Sound) {bs : Bytes} (hroom : bs.length ≤ q.room) : (q.push bs).Sound where
  order := by
    show q.got ++ (q.waiting ++ bs) = q.put ++ bs
    rw [← List.append_assoc, h.order]
  fits := by
    have hfits := h.fits
    show (q.put ++ bs).length ≤ q.capacity
    rw [room] at hroom
    rw [List.length_append]
    omega

theorem apply (h : q.Sound) (op : Buffer.Op) : (q.apply op).2.Sound := by
  cases op with
  | write bs =>
    rw [ByteQueue.apply]
    split
    · next hroom => exact h.push hroom
    · exact h
  | claim n make =>
    rw [ByteQueue.apply]
    split
    · next hroom => exact h.push (by rwa [length_laid])
    · exact h
  | take n =>
    rw [ByteQueue.apply]
    split
    · refine ⟨?_, h.fits⟩
      show q.got ++ q.waiting.take n ++ q.waiting.drop n = q.put
      rw [List.append_assoc, List.take_append_drop, h.order]
    · exact h
  | clear => exact sound_ofCapacity q.capacity
  | look => exact h

theorem waiting_eq (h : q.Sound) : q.waiting = q.put.drop q.got.length := by
  rw [← h.order, List.drop_left]

theorem length_waiting (h : q.Sound) : q.waiting.length = q.put.length - q.got.length := by
  rw [h.waiting_eq, List.length_drop]

theorem length_got_le (h : q.Sound) : q.got.length ≤ q.put.length := by
  rw [← h.order, List.length_append]
  exact Nat.le_add_right ..

end Sound

/-! A queue in cells. -/

/-- The buffer that holds what the queue does. -/
def buffer (q : ByteQueue) : Buffer := .holding q.put q.got.length q.room

theorem buffer_push (q : ByteQueue) (bs : Bytes) :
    (q.push bs).buffer = .holding (q.put ++ bs) q.got.length (q.room - bs.length) := by
  rw [buffer, room, room, Nat.sub_sub, ← List.length_append]
  rfl

/-- A call does to the cells what it does to the queue, and is answered alike. -/
theorem Sound.apply_buffer {q : ByteQueue} (h : q.Sound) (op : Buffer.Op) :
    q.buffer.apply op = ((q.apply op).1, (q.apply op).2.buffer) := by
  cases op with
  | write bs =>
    rw [ByteQueue.apply, Buffer.apply, buffer, Buffer.write_holding]
    by_cases hroom : bs.length ≤ q.room
    · simp only [if_pos hroom, buffer_push]
    · simp only [if_neg hroom, buffer]
  | claim n make =>
    rw [ByteQueue.apply, Buffer.apply, buffer, Buffer.claim_holding]
    by_cases hroom : n ≤ q.room
    · simp only [if_pos hroom, buffer_push, length_laid]
      rfl
    · simp only [if_neg hroom, buffer]
  | take n =>
    rw [ByteQueue.apply, Buffer.apply, buffer, Buffer.take_holding, ← h.length_waiting,
      ← h.waiting_eq]
    by_cases hsize : n ≤ q.waiting.length
    · simp only [if_pos hsize, buffer, room, List.length_append, List.length_take,
        Nat.min_eq_left hsize]
    · simp only [if_neg hsize, buffer]
  | clear =>
    have hfits : q.put.length + q.room = q.capacity := Nat.add_sub_cancel' h.fits
    rw [ByteQueue.apply, Buffer.apply, buffer, Buffer.clear_holding, hfits]
    rfl
  | look => rfl

theorem Sound.run {q : ByteQueue} (h : q.Sound) (ops : List Buffer.Op) :
    (q.run ops).Sound ∧ q.buffer.run ops = (q.run ops).buffer := by
  -- Both at once: only the cells of a sound queue go where the queue goes.
  induction ops generalizing q with
  | nil => exact ⟨h, rfl⟩
  | cons op ops ih =>
    obtain ⟨hsound, hrun⟩ := ih (h.apply op)
    refine ⟨hsound, ?_⟩
    show (q.buffer.apply op).2.run ops = _
    rw [h.apply_buffer]
    exact hrun

theorem sound_run (capacity : Nat) (ops : List Buffer.Op) : ((ofCapacity capacity).run ops).Sound :=
  ((sound_ofCapacity capacity).run ops).1

/-- A new buffer comes to the cells of the queue that the same calls lead to. -/
theorem run_buffer (capacity : Nat) (ops : List Buffer.Op) :
    (Buffer.ofCapacity capacity).run ops = ((ofCapacity capacity).run ops).buffer :=
  ((sound_ofCapacity capacity).run ops).2

theorem capacity_apply (q : ByteQueue) (op : Buffer.Op) : (q.apply op).2.capacity = q.capacity := by
  cases op with
  | clear => rfl
  | look => rfl
  | _ =>
    rw [apply]
    split <;> rfl

theorem capacity_run (q : ByteQueue) (ops : List Buffer.Op) : (q.run ops).capacity = q.capacity := by
  induction ops generalizing q with
  | nil => rfl
  | cons op ops ih => exact (ih _).trans (q.capacity_apply op)

/-! What calls answer. -/

theorem blank_of_claim (q : ByteQueue) {n : Nat} {make : Bytes → Bytes} {area : Bytes}
    (h : (q.apply (.claim n make)).1 = .bytes area) : area = List.replicate n 0 := by
  rw [apply] at h
  split at h
  · cases h
    rfl
  · cases h

/-- A call that is refused where it asks for too much fails there only. -/
theorem failed_iff_of_limit {n limit : Nat} {shortage s : Shortage} {answer : Buffer.Reply × ByteQueue}
    (q : ByteQueue) (hdone : answer.1 ≠ .failed shortage) :
    (if n ≤ limit then answer else (.failed s, q)).1 = .failed shortage ↔
      limit < n ∧ shortage = s := by
  by_cases h : n ≤ limit
  · rw [if_pos h]
    exact iff_of_false hdone fun hlt => Nat.not_lt.mpr h hlt.1
  · rw [if_neg h, Buffer.Reply.failed.injEq, eq_comm, and_iff_right (Nat.lt_of_not_le h)]

theorem write_failed_iff (q : ByteQueue) (bs : Bytes) (shortage : Shortage) :
    (q.apply (.write bs)).1 = .failed shortage ↔
      q.room < bs.length ∧ shortage = .overflow bs.length q.room :=
  q.failed_iff_of_limit (by simp)

theorem claim_failed_iff (q : ByteQueue) (n : Nat) (make : Bytes → Bytes) (shortage : Shortage) :
    (q.apply (.claim n make)).1 = .failed shortage ↔
      q.room < n ∧ shortage = .overflow n q.room :=
  q.failed_iff_of_limit (by simp)

theorem take_failed_iff (q : ByteQueue) (n : Nat) (shortage : Shortage) :
    (q.apply (.take n)).1 = .failed shortage ↔
      q.waiting.length < n ∧ shortage = .underflow n q.waiting.length :=
  q.failed_iff_of_limit (by simp)

theorem apply_of_failed {q : ByteQueue} {op : Buffer.Op} {shortage : Shortage}
    (h : (q.apply op).1 = .failed shortage) : (q.apply op).2 = q := by
  cases op with
  | write bs =>
    rw [apply, if_neg (Nat.not_le.mpr ((q.write_failed_iff bs shortage).mp h).1)]
  | claim n make =>
    rw [apply, if_neg (Nat.not_le.mpr ((q.claim_failed_iff n make shortage).mp h).1)]
  | take n =>
    rw [apply, if_neg (Nat.not_le.mpr ((q.take_failed_iff n shortage).mp h).1)]
  | clear => cases h
  | look => rfl

end ByteQueue

namespace Buffer

/-- The marks and the cells are those of a queue, and clearing makes a new buffer of them. -/
structure Mirrors (b : Buffer) (q : ByteQueue) : Prop where
  taken_le : b.taken ≤ b.written
  written_le : b.written ≤ b.capacity
  capacity_eq : b.capacity = q.capacity
  written_eq : b.written = q.put.length
  blank : ∀ cell ∈ b.cells.drop b.written, cell = 0
  readable_eq : b.readable = q.waiting
  order : q.got ++ b.readable = q.put
  clear_eq : b.clear = ofCapacity q.capacity
  reset_eq : Reusable.reset b = ofCapacity q.capacity

/-- Calls are answered as the queue answers them, and the cells handed out are blank. What is too
much is refused with the exact numbers, and that changes nothing. -/
structure Answers (b : Buffer) (q : ByteQueue) : Prop where
  same : ∀ op, (b.apply op).1 = (q.apply op).1
  claim_blank : ∀ n make area, (b.apply (.claim n make)).1 = .bytes area → area = List.replicate n 0
  write_fails : ∀ bs shortage, (b.apply (.write bs)).1 = .failed shortage ↔
    q.capacity - q.put.length < bs.length ∧
      shortage = .overflow bs.length (q.capacity - q.put.length)
  claim_fails : ∀ n make shortage, (b.apply (.claim n make)).1 = .failed shortage ↔
    q.capacity - q.put.length < n ∧ shortage = .overflow n (q.capacity - q.put.length)
  take_fails : ∀ n shortage, (b.apply (.take n)).1 = .failed shortage ↔
    b.size < n ∧ shortage = .underflow n b.size
  unchanged : ∀ op shortage, (b.apply op).1 = .failed shortage → (b.apply op).2 = b

theorem clear_buffer {q : ByteQueue} (h : q.Sound) : q.buffer.clear = ofCapacity q.capacity :=
  congrArg Prod.snd (h.apply_buffer .clear)

theorem mirrors_buffer {q : ByteQueue} (h : q.Sound) : q.buffer.Mirrors q where
  taken_le := h.length_got_le
  written_le := by
    rw [ByteQueue.buffer, capacity_holding]
    exact Nat.le_add_right ..
  capacity_eq := by
    rw [ByteQueue.buffer, capacity_holding]
    exact Nat.add_sub_cancel' h.fits
  written_eq := rfl
  blank cell hcell := by
    have hdrop : q.buffer.cells.drop q.buffer.written = List.replicate q.room 0 := List.drop_left
    rw [hdrop] at hcell
    exact List.eq_of_mem_replicate hcell
  readable_eq := by rw [ByteQueue.buffer, readable_holding, h.waiting_eq]
  order := by rw [ByteQueue.buffer, readable_holding, ← h.waiting_eq, h.order]
  clear_eq := clear_buffer h
  reset_eq := clear_buffer h

theorem answers_buffer {q : ByteQueue} (h : q.Sound) : q.buffer.Answers q where
  same op := congrArg Prod.fst (h.apply_buffer op)
  claim_blank n make area hanswer := by
    rw [h.apply_buffer] at hanswer
    exact q.blank_of_claim hanswer
  write_fails bs shortage := by
    rw [h.apply_buffer]
    exact q.write_failed_iff bs shortage
  claim_fails n make shortage := by
    rw [h.apply_buffer]
    exact q.claim_failed_iff n make shortage
  take_fails n shortage := by
    have hsize : q.buffer.size = q.waiting.length := h.length_waiting.symm
    rw [h.apply_buffer, hsize]
    exact q.take_failed_iff n shortage
  unchanged op shortage hfailed := by
    rw [h.apply_buffer] at hfailed ⊢
    rw [ByteQueue.apply_of_failed hfailed]

/-- **A buffer is a bounded queue of bytes**, whatever calls were made on it and whichever of them
failed. -/
theorem bounded_queue (capacity : Nat) (ops : List Op) :
    ((ofCapacity capacity).run ops).Mirrors ((ByteQueue.ofCapacity capacity).run ops) ∧
      ((ofCapacity capacity).run ops).Answers ((ByteQueue.ofCapacity capacity).run ops) ∧
      ((ByteQueue.ofCapacity capacity).run ops).capacity = capacity := by
  have hq := ByteQueue.sound_run capacity ops
  rw [ByteQueue.run_buffer]
  exact ⟨mirrors_buffer hq, answers_buffer hq, ByteQueue.capacity_run _ ops⟩

end Buffer
end Passage
