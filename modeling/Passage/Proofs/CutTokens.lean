import Mathlib.Order.Bounds.Defs
import Mathlib.Tactic.Choose
import Passage.Proofs.ByteQueue
import Passage.Proofs.Sessions

/- Tokens that are cut off where a buffer ends.

   A token is written field by field. Where one does not fit the writing ends, and the fields
   before it stay in the buffer.

   1. `Buffer.cuts` are the lengths at which pieces in a row can break off: before each piece.
      Without room for all of them they break off at the greatest that is in reach, whatever
      else the buffer holds (`Buffer.writeAll_short`).
   2. A token is cut at 0, 2, 3, 19 or 20 of its 84 bytes (`Token.cuts_fields`).
   3. What an issued token leaves in a buffer is the token or such a part of it, behind what was
      readable, and the room alone decides which (`Session.appends_by_room`). The room is the
      capacity less all that was put in since the last clear: `ByteQueue` counts that. -/
namespace Passage

namespace Buffer

/-- The lengths at which pieces in a row can break off. -/
def cuts : List Bytes → List Nat
  | [] => []
  | piece :: rest => 0 :: (cuts rest).map (piece.length + ·)

/-- Behind a piece that fits, the last place in reach is the one that the rest has in the cells
left. -/
theorem isGreatest_cuts_cons {piece : Bytes} {rest : List Bytes} {n c : Nat}
    (hpiece : piece.length ≤ n)
    (h : IsGreatest {m | m ∈ cuts rest ∧ m ≤ n - piece.length} c) :
    IsGreatest {m | m ∈ cuts (piece :: rest) ∧ m ≤ n} (piece.length + c) := by
  obtain ⟨⟨hmem, hle⟩, hgreatest⟩ := h
  refine ⟨⟨List.mem_cons_of_mem _ (List.mem_map_of_mem hmem), by omega⟩, ?_⟩
  rintro m ⟨hm, hmn⟩
  rcases List.mem_cons.mp hm with rfl | hm
  · exact Nat.zero_le _
  · obtain ⟨k, hk, rfl⟩ := List.mem_map.mp hm
    have hkc : k ≤ c := hgreatest ⟨hk, by omega⟩
    omega

theorem isGreatest_cuts_zero {piece : Bytes} {rest : List Bytes} {n : Nat} (h : n < piece.length) :
    IsGreatest {m | m ∈ cuts (piece :: rest) ∧ m ≤ n} 0 := by
  refine ⟨⟨List.mem_cons_self, Nat.zero_le n⟩, ?_⟩
  rintro m ⟨hm, hmn⟩
  rcases List.mem_cons.mp hm with rfl | hm
  · exact Nat.le_refl 0
  · obtain ⟨k, -, rfl⟩ := List.mem_map.mp hm
    omega

/-- Pieces that do not fit together break off at the last place that the blank cells reach,
whatever stands before these cells. -/
theorem writeAll_short (pieces : List Bytes) (n : Nat) (h : n < pieces.flatten.length) :
    ∃ c requested remaining, IsGreatest {m | m ∈ cuts pieces ∧ m ≤ n} c ∧
      ∀ w t, (holding w t n).writeAll pieces =
        (.error (.overflow requested remaining), holding (w ++ pieces.flatten.take c) t (n - c)) := by
  -- The rest breaks off in the cells that a fitting first piece leaves.
  induction pieces generalizing n with
  | nil => exact absurd h (Nat.not_lt_zero n)
  | cons piece rest ih =>
    rw [List.flatten_cons, List.length_append] at h
    by_cases hpiece : piece.length ≤ n
    · obtain ⟨c, requested, remaining, hc, hrest⟩ := ih (n - piece.length) (by omega)
      refine ⟨piece.length + c, requested, remaining, isGreatest_cuts_cons hpiece hc, ?_⟩
      intro w t
      rw [writeAll, write_holding, if_pos hpiece]
      simp only
      rw [hrest, List.flatten_cons, List.take_length_add_append, List.append_assoc, Nat.sub_sub]
    · refine ⟨0, piece.length, n, isGreatest_cuts_zero (Nat.lt_of_not_le hpiece), ?_⟩
      intro w t
      rw [writeAll, write_holding, if_neg hpiece]
      simp only [List.take_zero, List.append_nil, Nat.sub_zero]

end Buffer

namespace Token

/-- A token breaks off before its level, a separator, its expiry, a separator or its tag. -/
theorem cuts_fields (key : Bytes) (id : Identity) (expires : Nat) :
    Buffer.cuts (fields key id expires) = [0, 2, 3, 19, 20] := by
  simp [Buffer.cuts, fields, pieces]

/-- What comes of a token for which there are `room` cells: the outcome, and the text that is
written. -/
structure CutTo (token : Bytes) (room : Nat) (outcome : Outcome) (text : Bytes) : Prop where
  ok_iff : outcome = .ok () ↔ size ≤ room
  whole : size ≤ room → text = token
  overflow : room < size → outcome = .error .bufferOverflow
  part : room < size →
    ∃ n, IsGreatest {m | m ∈ [0, 2, 3, 19, 20] ∧ m ≤ room} n ∧ text = token.take n

theorem cutTo_whole (token : Bytes) {room : Nat} (h : size ≤ room) :
    CutTo token room (.ok ()) token where
  ok_iff := iff_of_true rfl h
  whole _ := rfl
  overflow hshort := absurd h (Nat.not_le.mpr hshort)
  part hshort := absurd h (Nat.not_le.mpr hshort)

theorem cutTo_part (token : Bytes) {room n : Nat} (h : room < size)
    (hn : IsGreatest {m | m ∈ [0, 2, 3, 19, 20] ∧ m ≤ room} n) :
    CutTo token room (.error .bufferOverflow) (token.take n) where
  ok_iff := iff_of_false (by simp) (Nat.not_le.mpr h)
  whole hroom := absurd hroom (Nat.not_le.mpr h)
  overflow _ := rfl
  part _ := ⟨n, hn, rfl⟩

end Token

namespace Engine.Session

/-- What an issued token leaves depends on how many cells are blank, not on what is before them. -/
theorem Sound.issues_cut {secret : Secret} {levels : LevelTable} {s : Session}
    (h : s.Sound secret levels) (id : Identity) (lifetime : Duration) (room : Nat) :
    ∃ outcome text,
      Token.CutTo (Token.signed secret.bytes id (s.clock.expiresAt lifetime)) room outcome text ∧
      ∀ w t, t ≤ w.length → ∃ out,
        (s.apply (.issue id lifetime (.holding w t room))).1 = .issued outcome out ∧
          out.readable = w.drop t ++ text := by
  have hlength := Token.length_signed secret.bytes id (s.clock.expiresAt lifetime)
  rw [Token.signed] at hlength ⊢
  by_cases hroom : Token.size ≤ room
  · refine ⟨.ok (), _, Token.cutTo_whole _ hroom, ?_⟩
    intro w t ht
    rw [h.reply_issue, Buffer.writeAll_holding w t room _ (by rw [hlength]; exact hroom)]
    exact ⟨_, rfl, Buffer.readable_holding_append ht ..⟩
  · have hshort := Nat.lt_of_not_le hroom
    obtain ⟨c, requested, remaining, hc, hwrite⟩ :=
      Buffer.writeAll_short _ room (by rw [hlength]; exact hshort)
    rw [Token.cuts_fields] at hc
    refine ⟨.error .bufferOverflow, _, Token.cutTo_part _ hshort hc, ?_⟩
    intro w t ht
    rw [h.reply_issue, hwrite]
    exact ⟨_, rfl, Buffer.readable_holding_append ht ..⟩

/-- **The room decides what is left of a token.** Whatever calls an engine and a buffer had, a
token is appended to what is readable, whole or cut off, and how it is cut follows from how much
was put into the buffer since its last clear. -/
theorem appends_by_room (secret : Secret) (levels : LevelTable) (clock : Clock) (calls : List Op)
    (id : Identity) (lifetime : Duration) :
    (Token.signed secret.bytes id
      ((reached secret levels clock calls).clock.expiresAt lifetime)).length = 84 ∧
    ∃ (outcome : Nat → Outcome) (text : Nat → Bytes),
      (∀ room, Token.CutTo (Token.signed secret.bytes id
        ((reached secret levels clock calls).clock.expiresAt lifetime))
          room (outcome room) (text room)) ∧
      ∀ capacity ops, ∃ out,
        ((reached secret levels clock calls).apply
          (.issue id lifetime ((Buffer.ofCapacity capacity).run ops))).1 =
            .issued (outcome (capacity - ((ByteQueue.ofCapacity capacity).run ops).put.length)) out ∧
        out.readable = ((Buffer.ofCapacity capacity).run ops).readable ++
          text (capacity - ((ByteQueue.ofCapacity capacity).run ops).put.length) := by
  have hsound := sound_reached secret levels clock calls
  refine ⟨Token.length_signed .., ?_⟩
  choose outcome text hcut happend using hsound.issues_cut id lifetime
  refine ⟨outcome, text, hcut, ?_⟩
  intro capacity ops
  have hqueue := ByteQueue.sound_run capacity ops
  have hroom : ((ByteQueue.ofCapacity capacity).run ops).room =
      capacity - ((ByteQueue.ofCapacity capacity).run ops).put.length := by
    rw [ByteQueue.room, ByteQueue.capacity_run]
    rfl
  rw [ByteQueue.run_buffer, ByteQueue.buffer, hroom, Buffer.readable_holding]
  exact happend _ _ _ hqueue.length_got_le

end Engine.Session
end Passage
