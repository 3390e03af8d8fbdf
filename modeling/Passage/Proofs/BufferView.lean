import Passage.Buffer

/- Buffers seen through what they hold.

   `holding w t n` is the buffer in which `w` was written, `t` bytes of it were
   read, and `n` cells are left blank. Every operation takes such a buffer to such
   a buffer, by an equation on `w`, `t` and `n`; a buffer of this form is `Sound`,
   and a sound buffer is as good as new once it is cleared (`Sound.clear_eq`). -/
namespace Passage.Buffer

/-- The buffer with `w` written, `t` bytes of it read and `n` blank cells behind. -/
def holding (w : Bytes) (t n : Nat) : Buffer := ⟨w ++ List.replicate n 0, t, w.length⟩

theorem ofCapacity_eq (n : Nat) : ofCapacity n = holding [] 0 n := rfl

section Holding
variable (w : Bytes) (t n : Nat)

@[simp] theorem capacity_holding : (holding w t n).capacity = w.length + n := by
  simp [capacity, holding]

@[simp] theorem room_holding : (holding w t n).room = n := by
  rw [room, capacity_holding]
  exact Nat.add_sub_cancel_left ..

@[simp] theorem size_holding : (holding w t n).size = w.length - t := rfl

@[simp] theorem readable_holding : (holding w t n).readable = w.drop t := by
  rw [readable, size_holding]
  show ((w ++ List.replicate n 0).drop t).take (w.length - t) = w.drop t
  rw [List.drop_append, ← List.length_drop, List.take_left]

theorem readable_holding_append {w : Bytes} {t : Nat} (h : t ≤ w.length) (bs : Bytes) (n : Nat) :
    (holding (w ++ bs) t n).readable = w.drop t ++ bs := by
  rw [readable_holding, List.drop_append_of_le_length h]

/-- Reserved cells are blank. -/
theorem reserve_holding (k : Nat) : (holding w t n).reserve k =
    if k ≤ n then .ok (List.replicate k 0, holding (w ++ List.replicate k 0) t (n - k))
    else .error (.overflow k n) := by
  rw [reserve, room_holding]
  by_cases h : k ≤ n
  · have hn : n = k + (n - k) := by omega
    rw [if_neg (Nat.not_lt.mpr h), if_pos h]
    have hd : ((holding w t n).cells.drop (holding w t n).written).take k = List.replicate k 0 := by
      show ((w ++ List.replicate n 0).drop w.length).take k = _
      rw [List.drop_left, List.take_replicate, Nat.min_eq_left h]
    rw [hd]
    simp only [holding, List.length_append, List.length_replicate, List.append_assoc,
      List.replicate_append_replicate, ← hn]
  · rw [if_pos (Nat.lt_of_not_le h), if_neg h]

theorem fill_holding (area bs : Bytes) : (holding (w ++ area) t n).fill area.length bs =
    holding (w ++ (bs.take area.length ++ area.drop bs.length)) t n := by
  have hs : (w ++ area).length - area.length = w.length := by
    rw [List.length_append]
    exact Nat.add_sub_cancel ..
  have hl : (bs.take area.length ++ area.drop bs.length).length = area.length := by
    simp only [List.length_append, List.length_take, List.length_drop]
    omega
  -- What is laid is cut to the area, so the cells behind it stay as they are.
  simp only [fill, holding, hs]
  rw [List.drop_left, List.append_assoc w area, List.take_left, List.drop_left, List.take_left]
  simp only [List.append_assoc, List.length_append, hl]

/-- The cells handed out are blank, and what is made of them is what was written. -/
theorem claim_holding (k : Nat) (make : Bytes → Bytes) : (holding w t n).claim k make =
    if k ≤ n then
      .ok (List.replicate k 0, holding (w ++ ((make (List.replicate k 0)).take k ++
        List.replicate (k - (make (List.replicate k 0)).length) 0)) t (n - k))
    else .error (.overflow k n) := by
  rw [claim, reserve_holding]
  by_cases h : k ≤ n
  · have hf := fill_holding w t (n - k) (List.replicate k 0) (make (List.replicate k 0))
    rw [List.length_replicate, List.drop_replicate] at hf
    simp only [if_pos h, hf]
  · simp only [if_neg h]

theorem write_holding (bs : Bytes) : (holding w t n).write bs =
    if bs.length ≤ n then .ok (holding (w ++ bs) t (n - bs.length))
    else .error (.overflow bs.length n) := by
  rw [write, claim_holding]
  by_cases h : bs.length ≤ n
  · simp only [if_pos h, List.take_length, Nat.sub_self, List.replicate_zero, List.append_nil]
  · simp only [if_neg h]

theorem take_holding (k : Nat) : (holding w t n).take k =
    if k ≤ w.length - t then .ok ((w.drop t).take k, holding w (t + k) n)
    else .error (.underflow k (w.length - t)) := by
  rw [take, size_holding]
  by_cases h : k ≤ w.length - t
  · rw [if_neg (Nat.not_lt.mpr h), if_pos h]
    have hd : ((holding w t n).cells.drop (holding w t n).taken).take k = (w.drop t).take k := by
      show ((w ++ List.replicate n 0).drop t).take k = _
      rw [List.drop_append, List.take_append_of_le_length (by rw [List.length_drop]; omega)]
    rw [hd]
    rfl
  · rw [if_pos (Nat.lt_of_not_le h), if_neg h]

theorem clear_holding : (holding w t n).clear = holding [] 0 (w.length + n) := by
  show (⟨List.replicate w.length 0 ++ (w ++ List.replicate n 0).drop w.length, 0, 0⟩ : Buffer) = _
  rw [List.drop_left, List.replicate_append_replicate]
  rfl

/-- Pieces that fit together are written one behind the other. -/
theorem writeAll_holding (pieces : List Bytes) (h : pieces.flatten.length ≤ n) :
    (holding w t n).writeAll pieces =
      (.ok (), holding (w ++ pieces.flatten) t (n - pieces.flatten.length)) := by
  induction pieces generalizing w n with
  | nil => simp [writeAll]
  | cons p pieces ih =>
    rw [List.flatten_cons, List.length_append] at h
    rw [writeAll, write_holding, if_pos (by omega)]
    simp only
    rw [ih (w ++ p) (n - p.length) (by omega), List.flatten_cons, List.length_append,
      List.append_assoc, Nat.sub_sub]

end Holding

/-! Sound buffers. -/

/-- The marks are in order and all behind the write mark is blank. -/
def Sound (b : Buffer) : Prop := ∃ w t n, t ≤ w.length ∧ b = holding w t n

theorem sound_holding {w : Bytes} {t n : Nat} (h : t ≤ w.length) : (holding w t n).Sound :=
  ⟨w, t, n, h, rfl⟩

theorem sound_ofCapacity (n : Nat) : (ofCapacity n).Sound := ⟨[], 0, n, Nat.le_refl 0, rfl⟩

/-- A cleared buffer is as good as new. -/
theorem Sound.clear_eq {b : Buffer} (h : b.Sound) : b.clear = ofCapacity b.capacity := by
  obtain ⟨w, t, n, -, rfl⟩ := h
  rw [clear_holding, capacity_holding, ofCapacity_eq]

theorem Sound.write {b b' : Buffer} {bs : Bytes} (h : b.Sound) (hw : b.write bs = .ok b') :
    b'.Sound ∧ b'.capacity = b.capacity := by
  obtain ⟨w, t, n, ht, rfl⟩ := h
  rw [write_holding] at hw
  split at hw
  · next hn =>
    cases hw
    refine ⟨sound_holding (by rw [List.length_append]; omega), ?_⟩
    simp only [capacity_holding, List.length_append]
    omega
  · cases hw

/-- Pieces for which there is room are appended to what is readable. -/
theorem Sound.writeAll_of_room {b : Buffer} (h : b.Sound) {pieces : List Bytes}
    (hroom : pieces.flatten.length ≤ b.room) : ∃ b', b.writeAll pieces = (.ok (), b') ∧
      b'.readable = b.readable ++ pieces.flatten := by
  obtain ⟨w, t, n, ht, rfl⟩ := h
  rw [room_holding] at hroom
  refine ⟨_, writeAll_holding w t n pieces hroom, ?_⟩
  rw [readable_holding_append ht, readable_holding]

/-- Every call keeps a buffer sound and its capacity the same. -/
theorem Sound.apply {b : Buffer} (h : b.Sound) (op : Op) :
    (b.apply op).2.Sound ∧ (b.apply op).2.capacity = b.capacity := by
  have h' := h
  obtain ⟨w, t, n, ht, rfl⟩ := h'
  cases op with
  | write bs =>
    rw [Buffer.apply]
    cases hw : (holding w t n).write bs with
    | error shortage => exact ⟨h, rfl⟩
    | ok b' => exact h.write hw
  | claim k make =>
    rw [Buffer.apply, claim_holding]
    split
    · next hc =>
      split at hc
      · cases hc
      · exact ⟨h, rfl⟩
    · next hc =>
      split at hc
      · cases hc
        refine ⟨sound_holding (by rw [List.length_append]; omega), ?_⟩
        simp only [capacity_holding, List.length_append, List.length_take, List.length_replicate]
        omega
      · cases hc
  | take k =>
    rw [Buffer.apply, take_holding]
    split
    · exact ⟨h, rfl⟩
    · next hc =>
      split at hc
      · cases hc
        exact ⟨sound_holding (by omega), rfl⟩
      · cases hc
  | clear =>
    rw [Buffer.apply, clear_holding]
    exact ⟨sound_holding (Nat.le_refl 0), by simp⟩
  | look => exact ⟨h, rfl⟩

theorem sound_run (n : Nat) (ops : List Op) : ((ofCapacity n).run ops).Sound := by
  suffices h : ∀ b : Buffer, b.Sound → (b.run ops).Sound from h _ (sound_ofCapacity n)
  induction ops with
  | nil => exact fun _ h => h
  | cons op ops ih => exact fun b h => ih _ (h.apply op).1

end Passage.Buffer
