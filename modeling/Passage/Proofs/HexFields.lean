import Passage.Proofs.TokenCheck

/- Hexadecimal fields and the bytes they stand for.

   1. The decoder gives exactly the bytes whose digits it is shown, if they are as many as it
      wants (`Hex.decodeExactly?_eq_some_iff`), and refuses all other texts
      (`Hex.decodeExactly?_eq_none_iff`).
   2. A field of a token is read by this decoder. Where text and room last, what it refuses is
      malformed, and nothing else is (`Token.outcome_field`).
   3. So digits and bytes belong together one to one, from the buffer they are written into to
      the field they are read from (`Hex.one_to_one`). -/
namespace Passage

namespace Hex

/-- The decoder takes what the encoder writes for so many bytes. -/
theorem decodeExactly?_eq_some_iff {n : Nat} {s bs : Bytes} :
    decodeExactly? n s = some bs ↔ bs.length = n ∧ encode bs = s := by
  rw [decodeExactly?_eq]
  constructor
  · intro h
    split at h
    · next hs =>
      cases h
      have hlength := length_bytes s
      exact ⟨by omega, encode_bytes s (by omega) hs.2⟩
    · cases h
  · rintro ⟨rfl, rfl⟩
    rw [if_pos ⟨length_encode bs, isLower_encode bs⟩, bytes_encode]

theorem decodeExactly?_eq_none_iff {n : Nat} {s : Bytes} :
    decodeExactly? n s = none ↔ ¬(s.length = 2 * n ∧ IsLower s) := by
  rw [decodeExactly?_eq, ite_eq_right_iff]
  simp

/-- What a text is as a field of `n` bytes: these bytes, or malformed. -/
def decodeField (n : Nat) (s : Bytes) : Except Rejection Bytes :=
  match decodeExactly? n s with
  | some bs => .ok bs
  | none => .error .malformed

theorem decodeField_eq_ok_iff {n : Nat} {s bs : Bytes} :
    decodeField n s = .ok bs ↔ bs.length = n ∧ encode bs = s := by
  rw [← decodeExactly?_eq_some_iff, decodeField]
  cases decodeExactly? n s <;> simp

theorem decodeField_eq_malformed_iff {n : Nat} {s : Bytes} :
    decodeField n s = .error .malformed ↔ ¬(s.length = 2 * n ∧ IsLower s) := by
  rw [← decodeExactly?_eq_none_iff, decodeField]
  cases decodeExactly? n s <;> simp

theorem exists_decodeField_eq_ok_iff {n : Nat} {s : Bytes} :
    (∃ bs, decodeField n s = .ok bs) ↔ s.length = 2 * n ∧ IsLower s := by
  rw [← Decidable.not_not (p := s.length = 2 * n ∧ IsLower s), ← decodeExactly?_eq_none_iff,
    decodeField]
  cases decodeExactly? n s <;> simp

end Hex

namespace Token

theorem outcome_field (digits : Nat) (desk : Desk) : ((field digits).run.run desk).1 =
    if desk.text.remaining < digits then .error .malformed
    else if desk.scratch.room < digits / 2 then .error .bufferOverflow
    else Hex.decodeField (digits / 2)
      ((desk.text.data.drop desk.text.position).take digits) := by
  rw [field, run_bind]
  by_cases htext : desk.text.remaining < digits
  · have hread : (read digits).run.run desk = (.error .malformed, desk) := by
      simp [read, Cursor.take, htext, ExceptT.run_mk, StateT.run, Shortage.rejection]
    rw [hread, if_pos htext]
  · have hlength : ((desk.text.data.drop desk.text.position).take digits).length = digits := by
      rw [Cursor.remaining] at htext
      rw [List.length_take, List.length_drop]
      omega
    generalize hspelled : (desk.text.data.drop desk.text.position).take digits = spelled at hlength ⊢
    have hread : (read digits).run.run desk =
        (.ok spelled, { desk with text.position := desk.text.position + digits }) := by
      simp [read, Cursor.take, htext, hspelled, ExceptT.run_mk, StateT.run]
    rw [hread, if_neg htext]
    simp only [hlength]
    rw [run_bind]
    by_cases hroom : desk.scratch.room < digits / 2
    · rw [if_pos hroom]
      simp [reserve, Buffer.reserve, hroom, ExceptT.run_mk, StateT.run, Shortage.rejection]
    · simp only [reserve, Buffer.reserve, hroom, ExceptT.run_mk, StateT.run, if_false]
      rw [Hex.decodeField]
      cases Hex.decodeExactly? (digits / 2) spelled <;> rfl

end Token

namespace Hex

/-- **Digits and bytes belong together one to one.** What is written for bytes, into any buffer
that has room, is read as these bytes. A text of any length is read as so many bytes exactly if it
has two digits for each, and then it is what is written for them; otherwise it is malformed. So are
the fields of a token read. -/
theorem one_to_one :
    (∀ capacity ops bs, 2 * bs.length ≤ ((Buffer.ofCapacity capacity).run ops).room →
      ∃ b spelled, ((Buffer.ofCapacity capacity).run ops).write (encode bs) = .ok b ∧
        b.readable = ((Buffer.ofCapacity capacity).run ops).readable ++ spelled ∧
        decodeField bs.length spelled = .ok bs) ∧
      (∀ n s, (∃ bs, decodeField n s = .ok bs) ↔ s.length = 2 * n ∧ ∀ c ∈ s, c ∈ digits) ∧
      (∀ n s, decodeField n s = .error .malformed ↔ ¬(s.length = 2 * n ∧ ∀ c ∈ s, c ∈ digits)) ∧
      (∀ n s bs, decodeField n s = .ok bs → bs.length = n ∧ encode bs = s) ∧
      ∀ count desk, ((Token.field count).run.run desk).1 =
        if desk.text.remaining < count then .error .malformed
        else if desk.scratch.room < count / 2 then .error .bufferOverflow
        else decodeField (count / 2)
          ((desk.text.data.drop desk.text.position).take count) := by
  refine ⟨fun capacity ops bs hroom => ?_, fun n s => exists_decodeField_eq_ok_iff,
    fun n s => decodeField_eq_malformed_iff, fun n s bs => decodeField_eq_ok_iff.mp,
    Token.outcome_field⟩
  obtain ⟨w, t, n, ht, hb⟩ := Buffer.sound_run capacity ops
  rw [hb, Buffer.room_holding] at hroom
  refine ⟨.holding (w ++ encode bs) t (n - (encode bs).length), encode bs, ?_, ?_,
    decodeField_eq_ok_iff.mpr ⟨rfl, rfl⟩⟩
  · rw [hb, Buffer.write_holding, if_pos (by rwa [length_encode])]
  · rw [hb, Buffer.readable_holding_append ht, Buffer.readable_holding]

/-- A line feed and 255 are written into four bytes as `0aff`, and read from there. -/
theorem line_feed_written : ∃ b spelled,
    ((Buffer.ofCapacity 4).run []).write (encode [0x0a, 0xff]) = .ok b ∧ b.readable = spelled ∧
      decodeField 2 spelled = .ok [0x0a, 0xff] ∧ spelled = Bytes.ofText "0aff" := by
  obtain ⟨hwritten, -, -, hspelling, -⟩ := one_to_one
  obtain ⟨b, spelled, hwrite, hreadable, hread⟩ := hwritten 4 [] [0x0a, 0xff] (by decide)
  obtain ⟨-, hdigits⟩ := hspelling 2 spelled _ hread
  exact ⟨b, spelled, hwrite, hreadable, hread, hdigits.symm.trans (by decide)⟩

end Hex
end Passage
