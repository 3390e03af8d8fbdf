import Passage.Hash.Hmac

/- A digest of pieces is the digest of the whole.

   `Sha256.Stream.after m` is the one state that a stream reaches with the bytes
   `m`, however they came in: absorbing a piece leads from `after m` to
   `after (m ++ piece)` (`absorb_after`), hence any pieces do (`foldl_after`), and the
   value there is the digest of `m` (`value_after`). The tag of a keyed stream follows
   (`finish_foldl`). -/
namespace Passage

/-- Pieces lead from the state of what was absorbed to the state of all, if each piece does. -/
theorem foldl_after {σ : Type} {absorb : σ → Bytes → σ} {after : Bytes → σ}
    (h : ∀ m p, absorb (after m) p = after (m ++ p)) (m : Bytes) (pieces : List Bytes) :
    pieces.foldl absorb (after m) = after (m ++ pieces.flatten) := by
  induction pieces generalizing m with
  | nil => simp
  | cons p pieces ih => rw [List.foldl_cons, h, ih, List.flatten_cons, List.append_assoc]

namespace Sha256

/-! Whole blocks. -/

theorem compressBlocks_add (n k : Nat) (s : State) (m : Bytes) :
    compressBlocks (n + k) s m = compressBlocks k (compressBlocks n s m) (m.drop (64 * n)) := by
  induction n generalizing s m with
  | zero => simp [compressBlocks]
  | succ n ih =>
    rw [Nat.add_right_comm, compressBlocks, ih, compressBlocks, List.drop_drop]
    congr 2
    omega

/-- Only the blocks that are compressed are looked at. -/
theorem compressBlocks_append (n : Nat) (s : State) (m p : Bytes) (h : 64 * n ≤ m.length) :
    compressBlocks n s (m ++ p) = compressBlocks n s m := by
  induction n generalizing s m with
  | zero => rfl
  | succ n ih =>
    have h1 : 64 ≤ m.length := by omega
    rw [compressBlocks, compressBlocks, List.take_append_of_le_length h1,
      List.drop_append_of_le_length h1]
    exact ih _ _ (by rw [List.length_drop]; omega)

namespace Stream

/-- The stream that has absorbed `m`. -/
def after (m : Bytes) : Stream :=
  ⟨compressBlocks (m.length / 64) initial m, m.drop (64 * (m.length / 64)), m.length⟩

theorem start_eq : start = after [] := rfl

theorem blocks_append (m p : Bytes) : (m ++ p).length / 64 =
    m.length / 64 + (m.drop (64 * (m.length / 64)) ++ p).length / 64 := by
  simp only [List.length_append, List.length_drop]
  omega

/-- The blocks that `m` completed, then those that `m`'s rest and `p` complete, are the
blocks of `m ++ p`. -/
theorem compress_rest (m p : Bytes) :
    compressBlocks ((m.drop (64 * (m.length / 64)) ++ p).length / 64)
        (compressBlocks (m.length / 64) initial m) (m.drop (64 * (m.length / 64)) ++ p) =
      compressBlocks ((m ++ p).length / 64) initial (m ++ p) := by
  have hle : 64 * (m.length / 64) ≤ m.length := Nat.mul_div_le _ _
  rw [blocks_append m p, compressBlocks_add, compressBlocks_append _ _ _ _ hle,
    List.drop_append_of_le_length hle]

theorem absorb_after (m p : Bytes) : (after m).absorb p = after (m ++ p) := by
  have hle : 64 * (m.length / 64) ≤ m.length := Nat.mul_div_le _ _
  unfold absorb after
  simp only [compress_rest, Stream.mk.injEq, true_and]
  refine ⟨?_, List.length_append.symm⟩
  -- What is left over of the old rest and the piece is what is left over of the whole.
  rw [← List.drop_append_of_le_length hle, List.drop_drop, blocks_append m p, Nat.mul_add,
    List.drop_append_of_le_length hle]

theorem value_after (m : Bytes) : (after m).value = digest m := by
  simp only [value, after, digest, compress_rest]

/-- The digest of pieces is the digest of the whole. -/
theorem finish_foldl (pieces : List Bytes) :
    (pieces.foldl absorb start).finish = (digest pieces.flatten, start) := by
  rw [start_eq, foldl_after absorb_after, finish, value_after, List.nil_append, start_eq]

end Stream

theorem length_digest (m : Bytes) : (digest m).length = 32 := rfl

end Sha256

theorem Hmac.length_tag (key m : Bytes) : (tag key m).length = 32 := Sha256.length_digest _

namespace Hmac.Stream

def after (key m : Bytes) : Stream :=
  { keyed key with inner := Sha256.Stream.after (innerPad key ++ m) }

theorem keyed_eq (key : Bytes) : keyed key = after key [] := by
  simp only [keyed, after, Sha256.Stream.start_eq, Sha256.Stream.absorb_after, List.nil_append,
    List.append_nil]

@[simp] theorem reset_after (key m : Bytes) : (after key m).reset = keyed key := by
  simp only [reset, after, keyed]

theorem reset_keyed (key : Bytes) : (keyed key).reset = keyed key := rfl

theorem absorb_after (key m p : Bytes) : (after key m).absorb p = after key (m ++ p) := by
  simp only [absorb, after, Sha256.Stream.absorb_after, List.append_assoc]

/-- What a keyed stream gives for the bytes it absorbed is their tag, and it starts anew. -/
theorem finish_after (key m : Bytes) : (after key m).finish = (tag key m, keyed key) := by
  rw [finish, reset_after]
  simp only [after, keyed, Sha256.Stream.start_eq, Sha256.Stream.absorb_after,
    Sha256.Stream.value_after, List.nil_append, tag]

/-- The tag of pieces is the tag of the whole. -/
theorem finish_foldl (key : Bytes) (pieces : List Bytes) :
    (pieces.foldl absorb (keyed key)).finish = (tag key pieces.flatten, keyed key) := by
  rw [keyed_eq, foldl_after (absorb_after key), finish_after, List.nil_append, keyed_eq]

end Hmac.Stream
end Passage
