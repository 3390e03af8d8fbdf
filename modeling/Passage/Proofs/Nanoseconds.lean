import Passage.Time

/- Instants, lengths of time and expiries as whole numbers of nanoseconds.

   An instant shows the second that its nanoseconds round down to
   (`toNanos_div`), a sum is exact up to the calendar's end (`after?_of_le`) and
   missing past it (`after?_of_lt`), and a length beyond the longest step is beyond
   that end from every instant. So an expiry is the second that the exact sum
   rounds down to, 0 before the epoch and endless past the calendar
   (`expiresAt_eq`). -/
namespace Passage

namespace Instant

theorem toNanos_div (t : Instant) : t.toNanos / (billion : Int) = t.seconds := by
  have h := t.nanos_le
  unfold toNanos billion
  omega

theorem toNanos_le_last (t : Instant) : t.toNanos ≤ last.toNanos := by
  have h := t.seconds_le
  have h' := t.nanos_le
  unfold toNanos billion
  show _ ≤ (8210266876799 : Int) * 1000000000 + (999999999 : Nat)
  omega

theorem le_last_iff (s : Int) (n : Nat) : s * (billion : Int) + n ≤ last.toNanos ↔
    s + (n / billion : Nat) ≤ lastSecond := by
  unfold billion lastSecond
  show _ ≤ (8210266876799 : Int) * 1000000000 + (999999999 : Nat) ↔ _
  omega

theorem sum_toNanos (t : Instant) (d : Duration) : t.toNanos + d.toNanos =
    (t.seconds + d.seconds) * (billion : Int) + (t.nanos + d.nanos : Nat) := by
  unfold toNanos Duration.toNanos billion
  omega

theorem after?_of_le {t : Instant} {d : Duration} (h : t.toNanos + d.toNanos ≤ last.toNanos) :
    ∃ u, t.after? d = some u ∧ u.toNanos = t.toNanos + d.toNanos := by
  rw [sum_toNanos, le_last_iff] at h
  refine ⟨_, dif_pos h, ?_⟩
  rw [sum_toNanos]
  show (t.seconds + d.seconds + ((t.nanos + d.nanos) / billion : Nat)) * (billion : Int) +
    ((t.nanos + d.nanos) % billion : Nat) = _
  -- The bound is spent, and what is left is a division with remainder.
  clear h
  unfold billion
  omega

theorem after?_of_lt {t : Instant} {d : Duration} (h : last.toNanos < t.toNanos + d.toNanos) :
    t.after? d = none := by
  rw [sum_toNanos] at h
  exact dif_neg fun hle => Int.not_lt.mpr ((le_last_iff _ _).mpr hle) h

end Instant

namespace Duration

theorem toNanos_capped (d : Duration) : d.capped.toNanos = min d.toNanos longest.toNanos := by
  have h := d.nanos_lt
  unfold capped
  split
  · next hc =>
    symm
    apply Nat.min_eq_right
    revert hc
    unfold toNanos billion at *
    show _ ∨ _ → (9223372036854775 : Nat) * 1000000000 + 807000000 ≤ _
    show (9223372036854775 : Nat) < _ ∨ (_ = 9223372036854775 ∧ (807000000 : Nat) < _) → _
    omega
  · next hc =>
    symm
    apply Nat.min_eq_left
    revert hc
    unfold toNanos billion at *
    show ¬_ → _ ≤ (9223372036854775 : Nat) * 1000000000 + 807000000
    show ¬((9223372036854775 : Nat) < _ ∨ (_ = 9223372036854775 ∧ (807000000 : Nat) < _)) → _
    omega

/-- The longest step leads past the calendar's end from every instant. -/
theorem last_lt_add_longest (t : Instant) :
    Instant.last.toNanos < t.toNanos + longest.toNanos := by
  have h := t.seconds_ge
  unfold Instant.toNanos
  show (8210266876799 : Int) * 1000000000 + (999999999 : Nat) <
    t.seconds * 1000000000 + t.nanos + (9223372036854775807000000 : Nat)
  omega

/-- A cap on the length does not change whether a sum stays within the calendar, nor the sum. -/
theorem add_capped (t : Instant) (d : Duration) :
    (t.toNanos + d.capped.toNanos ≤ Instant.last.toNanos ↔
      t.toNanos + d.toNanos ≤ Instant.last.toNanos) ∧
    (t.toNanos + d.toNanos ≤ Instant.last.toNanos → d.capped.toNanos = d.toNanos) := by
  have hl := last_lt_add_longest t
  rw [toNanos_capped]
  omega

end Duration

namespace Clock

theorem unixSeconds_eq (c : Clock) : (c.unixSeconds : Int) = max 0 (c.now.toNanos / (billion : Int)) := by
  rw [Instant.toNanos_div, unixSeconds]
  omega

theorem after?_capped (t : Instant) (d : Duration) :
    (t.toNanos + d.toNanos ≤ Instant.last.toNanos →
      ∃ u, t.after? d.capped = some u ∧ u.toNanos = t.toNanos + d.toNanos) ∧
    (Instant.last.toNanos < t.toNanos + d.toNanos → t.after? d.capped = none) := by
  obtain ⟨hiff, heq⟩ := Duration.add_capped t d
  constructor
  · intro h
    obtain ⟨u, hu, hn⟩ := Instant.after?_of_le (hiff.mpr h)
    exact ⟨u, hu, by rw [hn, heq h]⟩
  · intro h
    exact Instant.after?_of_lt (Int.not_le.mp fun hle => Int.not_le.mpr h (hiff.mp hle))

/-- Expiries are exact: rounded down, 0 before the epoch, endless past the calendar. -/
theorem expiresAt_eq (c : Clock) (d : Duration) : (c.expiresAt d : Int) =
    if c.now.toNanos + d.toNanos ≤ Instant.last.toNanos then
      max 0 ((c.now.toNanos + d.toNanos) / (billion : Int))
    else endless := by
  obtain ⟨hle, hlt⟩ := after?_capped c.now d
  rw [expiresAt]
  by_cases h : c.now.toNanos + d.toNanos ≤ Instant.last.toNanos
  · obtain ⟨u, hu, hn⟩ := hle h
    rw [if_pos h, hu, ← hn, Instant.toNanos_div]
    show ((u.seconds.toNat : Nat) : Int) = _
    omega
  · rw [if_neg h, hlt (Int.not_le.mp h)]

/-- Up to the exact end of a lifetime its expiry has not passed. -/
theorem le_expiresAt {c now : Clock} {d : Duration}
    (h : now.now.toNanos ≤ c.now.toNanos + d.toNanos) :
    max 0 (now.now.toNanos / (billion : Int)) ≤ c.expiresAt d := by
  rw [expiresAt_eq]
  split
  · have hdiv : now.now.toNanos / (billion : Int) ≤ (c.now.toNanos + d.toNanos) / (billion : Int) :=
      Int.ediv_le_ediv (by decide) h
    omega
  · have hs := now.now.seconds_le
    rw [Instant.toNanos_div]
    show max 0 now.now.seconds ≤ (18446744073709551615 : Nat)
    omega

/-- A second behind the exact end of a lifetime its expiry has passed. -/
theorem expiresAt_lt_of_le {c now : Clock} {d : Duration}
    (h : max (c.now.toNanos + d.toNanos) 0 + (billion : Int) ≤ now.now.toNanos) :
    (c.expiresAt d : Int) < max 0 (now.now.toNanos / (billion : Int)) := by
  have hl := Instant.toNanos_le_last now.now
  have hb : (0 : Int) < (billion : Int) := by decide
  -- A clock that shows an instant a second behind the end proves that the calendar has the end.
  have hin : c.now.toNanos + d.toNanos ≤ Instant.last.toNanos := by omega
  calc (c.expiresAt d : Int)
      = max 0 ((c.now.toNanos + d.toNanos) / (billion : Int)) := by rw [expiresAt_eq, if_pos hin]
    _ ≤ max (c.now.toNanos + d.toNanos) 0 / (billion : Int) :=
        Int.max_le.mpr ⟨Int.ediv_nonneg (Int.le_max_right _ _) (Int.le_of_lt hb),
          Int.ediv_le_ediv hb (Int.le_max_left _ _)⟩
    _ < (max (c.now.toNanos + d.toNanos) 0 + (billion : Int)) / (billion : Int) := by
        rw [Int.add_ediv_of_dvd_right (Int.dvd_refl _), Int.ediv_self (Int.ne_of_gt hb)]
        exact Int.lt_add_one_of_le (Int.le_refl _)
    _ ≤ now.now.toNanos / (billion : Int) := Int.ediv_le_ediv hb h
    _ ≤ max 0 (now.now.toNanos / (billion : Int)) := Int.le_max_right _ _

theorem expiresAt_lt (c : Clock) (d : Duration) : c.expiresAt d < wordLimit := by
  rw [expiresAt]
  cases c.now.after? d.capped with
  | none => decide
  | some t =>
    have h := t.seconds_le
    show t.seconds.toNat < 18446744073709551616
    omega

end Clock
end Passage
