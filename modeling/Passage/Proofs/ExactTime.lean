import Mathlib.Data.Rat.Floor
import Passage.Proofs.Nanoseconds

/- Expiries as exact arithmetic on rational numbers of seconds.

   An instant and a length of time are each a number of seconds with a fraction
   (`Instant.exact`, `Duration.exact`). Their sum is a whole number of nanoseconds over a
   billion (`exact_add`), so its order and its whole seconds are those of the nanoseconds.
   A clock does what is done there with two limits and no rounding but the last: it shows
   the whole seconds from the epoch on, and an expiry past the calendar is the largest
   number of 64 bits (`Clock.expiresAt_exact`). -/
namespace Passage

/-- Seconds from the epoch. -/
def Instant.exact (t : Instant) : ℚ := t.seconds + t.nanos / (billion : ℕ)

def Duration.exact (d : Duration) : ℚ := d.seconds + d.nanos / (billion : ℕ)

theorem billion_pos : (0 : ℚ) < (billion : ℕ) := by norm_num

theorem Instant.exact_eq (t : Instant) : t.exact = (t.toNanos : ℤ) / (billion : ℕ) := by
  rw [exact, toNanos, eq_div_iff billion_pos.ne', add_mul, div_mul_cancel₀ _ billion_pos.ne']
  push_cast
  rfl

theorem Duration.exact_eq (d : Duration) : d.exact = (d.toNanos : ℕ) / (billion : ℕ) := by
  rw [exact, toNanos, eq_div_iff billion_pos.ne', add_mul, div_mul_cancel₀ _ billion_pos.ne']
  push_cast
  rfl

theorem exact_add (t : Instant) (d : Duration) :
    t.exact + d.exact = ((t.toNanos + d.toNanos : ℤ) : ℚ) / (billion : ℕ) := by
  rw [t.exact_eq, d.exact_eq, ← add_div]
  push_cast
  rfl

/-! Order and whole seconds. -/

theorem Instant.exact_le_iff (t u : Instant) : t.exact ≤ u.exact ↔ t.toNanos ≤ u.toNanos := by
  rw [exact_eq, exact_eq, div_le_div_iff_of_pos_right billion_pos, Int.cast_le]

theorem Duration.exact_le_iff (d e : Duration) : d.exact ≤ e.exact ↔ d.toNanos ≤ e.toNanos := by
  rw [exact_eq, exact_eq, div_le_div_iff_of_pos_right billion_pos, Nat.cast_le]

theorem last_lt_exact_add_iff (t : Instant) (d : Duration) :
    Instant.last.exact < t.exact + d.exact ↔ Instant.last.toNanos < t.toNanos + d.toNanos := by
  rw [exact_add, Instant.exact_eq, div_lt_div_iff_of_pos_right billion_pos, Int.cast_lt]

theorem Instant.floor_exact (t : Instant) : ⌊t.exact⌋ = t.toNanos / (billion : ℤ) := by
  rw [exact_eq]
  exact Rat.floor_intCast_div_natCast ..

theorem floor_exact_add (t : Instant) (d : Duration) :
    ⌊t.exact + d.exact⌋ = (t.toNanos + d.toNanos) / (billion : ℤ) := by
  rw [exact_add]
  exact Rat.floor_intCast_div_natCast ..

namespace Clock

theorem expiresAt_le {c later : Clock} {d longer : Duration}
    (hc : c.now.toNanos ≤ later.now.toNanos) (hd : d.toNanos ≤ longer.toNanos) :
    c.expiresAt d ≤ later.expiresAt longer := by
  have hsum : c.now.toNanos + d.toNanos ≤ later.now.toNanos + longer.toNanos :=
    Int.add_le_add hc (Int.ofNat_le.mpr hd)
  rw [← Int.ofNat_le, expiresAt_eq later longer]
  split
  · next hin =>
    have hdiv : (c.now.toNanos + d.toNanos) / (billion : ℤ) ≤
        (later.now.toNanos + longer.toNanos) / (billion : ℤ) :=
      Int.ediv_le_ediv (by decide) hsum
    rw [expiresAt_eq, if_pos (hsum.trans hin)]
    exact max_le_max_left 0 hdiv
  · -- What never expires expires last.
    exact Int.ofNat_le.mpr (Nat.le_pred_of_lt (expiresAt_lt c d))

/-- **Expiries are exact** up to the calendar's end and saturate there, for every clock and every
lifetime. None has passed when it is made, and none gets earlier with time or with the lifetime. -/
theorem expiresAt_exact (c : Clock) (d : Duration) :
    (c.expiresAt d : ℤ) =
        (if Instant.last.exact < c.now.exact + d.exact then 2 ^ 64 - 1
        else max 0 ⌊c.now.exact + d.exact⌋) ∧
      (c.unixSeconds : ℤ) = max 0 ⌊c.now.exact⌋ ∧
      c.unixSeconds ≤ c.expiresAt d ∧
      ∀ (later : Clock) (longer : Duration), c.now.exact ≤ later.now.exact →
        d.exact ≤ longer.exact → c.expiresAt d ≤ later.expiresAt longer := by
  refine ⟨?exact, ?shown, ?passed, fun later longer hc hd => ?mono⟩
  case exact =>
    rw [expiresAt_eq, floor_exact_add]
    by_cases hpast : Instant.last.toNanos < c.now.toNanos + d.toNanos
    · rw [if_neg (not_le.mpr hpast), if_pos ((last_lt_exact_add_iff _ _).mpr hpast)]
      rfl
    · rw [if_pos (not_lt.mp hpast), if_neg (mt (last_lt_exact_add_iff _ _).mp hpast)]
  case shown => rw [Instant.floor_exact, unixSeconds_eq]
  case passed =>
    rw [← Int.ofNat_le, unixSeconds_eq]
    exact le_expiresAt (Int.le_add_of_nonneg_right (Int.natCast_nonneg _))
  case mono =>
    exact expiresAt_le ((Instant.exact_le_iff ..).mp hc) ((Duration.exact_le_iff ..).mp hd)

end Clock
end Passage
