import Passage.Proofs.ExactTime

/- Clocks that are moved on.

   1. Moving on is one addition of nanoseconds with one limit, the calendar's end
      (`Clock.toNanos_advance`). The cap on the length lies behind that end, so it is never
      seen.
   2. Additions with one limit compose: a clock that is moved on in parts stands where the
      whole length takes it, or at the calendar's end (`Clock.toNanos_advances`).
   3. Within the calendar, what lives for the rest of a length after a part of it has passed
      expires when it would have expired before (`Clock.expiresAt_advance`). -/
namespace Passage

theorem Instant.eq_of_toNanos {t u : Instant} (h : t.toNanos = u.toNanos) : t = u := by
  have hseconds : t.seconds = u.seconds := by rw [← t.toNanos_div, ← u.toNanos_div, h]
  have hnanos : t.nanos = u.nanos := by
    rw [toNanos, toNanos, hseconds] at h
    exact Int.ofNat_inj.mp (Int.add_left_cancel h)
  cases t
  cases u
  cases hseconds
  cases hnanos
  rfl

namespace Clock

/-- Where a clock stands once it is moved on. -/
theorem toNanos_advance (c : Clock) (d : Duration) :
    (c.advance d).now.toNanos = min (c.now.toNanos + d.toNanos) Instant.last.toNanos := by
  obtain ⟨hin, hpast⟩ := after?_capped c.now d
  rw [advance]
  rcases le_or_gt (c.now.toNanos + d.toNanos) Instant.last.toNanos with hle | hlt
  · obtain ⟨t, ht, hnanos⟩ := hin hle
    rw [ht, min_eq_left hle]
    exact hnanos
  · rw [hpast hlt, min_eq_right hlt.le]

theorem toNanos_advances (c : Clock) (parts : List Duration) :
    (parts.foldl advance c).now.toNanos =
      min (c.now.toNanos + (parts.map Duration.toNanos).sum) Instant.last.toNanos := by
  induction parts generalizing c with
  | nil =>
    rw [List.foldl_nil, List.map_nil, List.sum_nil, Int.natCast_zero, Int.add_zero,
      min_eq_left c.now.toNanos_le_last]
  | cons d parts ih =>
    -- A part that meets the end leaves nothing for the parts behind it.
    rw [List.foldl_cons, ih, toNanos_advance, List.map_cons, List.sum_cons]
    omega

theorem advances_eq (c : Clock) {parts : List Duration} {whole : Duration}
    (h : whole.toNanos = (parts.map Duration.toNanos).sum) :
    parts.foldl advance c = c.advance whole := by
  have hnow : (parts.foldl advance c).now = (c.advance whole).now := by
    apply Instant.eq_of_toNanos
    rw [toNanos_advances, toNanos_advance, h]
  exact congrArg Clock.mk hnow

/-- What lives for the rest of a length expires when all of it has passed. -/
theorem expiresAt_advance {c : Clock} {passed rest whole : Duration}
    (h : whole.toNanos = passed.toNanos + rest.toNanos)
    (hin : c.now.toNanos + passed.toNanos ≤ Instant.last.toNanos) :
    (c.advance passed).expiresAt rest = c.expiresAt whole := by
  have hnow : (c.advance passed).now.toNanos + rest.toNanos = c.now.toNanos + whole.toNanos := by
    rw [toNanos_advance, min_eq_left hin, h]
    omega
  rw [← Int.ofNat_inj, expiresAt_eq, expiresAt_eq, hnow]

/-! In seconds. -/

theorem exact_advance (c : Clock) (d : Duration) :
    (c.advance d).now.exact = min (c.now.exact + d.exact) Instant.last.exact := by
  rw [exact_add, Instant.exact_eq, Instant.exact_eq, toNanos_advance, Int.cast_min,
    min_div_div_right billion_pos.le]

theorem toNanos_of_exact {a b whole : Duration} (h : whole.exact = a.exact + b.exact) :
    whole.toNanos = a.toNanos + b.toNanos := by
  rw [Duration.exact_eq, Duration.exact_eq, Duration.exact_eq, ← add_div,
    div_left_inj' billion_pos.ne'] at h
  exact_mod_cast h

/-- **Moving on composes.** A clock that is moved on by a length and by another stands, to the
nanosecond, where their sum takes it: at the exact sum or at the calendar's end. It never goes
back, and what lives for the second length after the first expires when what lives for their sum
does. -/
theorem advance_in_parts (c : Clock) (a b whole : Duration) (hwhole : whole.exact = a.exact + b.exact) :
    (c.advance a).advance b = c.advance whole ∧
      (c.advance whole).now.exact = min (c.now.exact + a.exact + b.exact) Instant.last.exact ∧
      (∀ d, c.now.exact ≤ (c.advance d).now.exact) ∧
      (c.now.exact + a.exact ≤ Instant.last.exact →
        (c.advance a).expiresAt b = c.expiresAt whole) := by
  have hsum := toNanos_of_exact hwhole
  refine ⟨?parts, ?place, fun d => ?onward, fun hin => ?expiry⟩
  case parts =>
    have hparts : whole.toNanos = ([a, b].map Duration.toNanos).sum := by
      rw [hsum, List.map_cons, List.map_cons, List.map_nil, List.sum_cons, List.sum_cons,
        List.sum_nil, Nat.add_zero]
    exact advances_eq c hparts
  case place => rw [exact_advance, hwhole, add_assoc]
  case onward =>
    rw [Instant.exact_le_iff, toNanos_advance]
    exact le_min (Int.le_add_of_nonneg_right (Int.natCast_nonneg _)) c.now.toNanos_le_last
  case expiry =>
    refine expiresAt_advance hsum (not_lt.mp fun hpast => ?_)
    exact absurd hin (not_le.mpr ((last_lt_exact_add_iff _ _).mpr hpast))

namespace Sample

/-- A quarter of a second before the epoch. -/
def early : Clock := ⟨⟨-1, 750000000, by decide, by decide, by decide⟩⟩

def short : Duration := { Duration.zero with nanos := 400000000, nanos_lt := by decide }

/-- A nanosecond more than the longest step. -/
def beyond : Duration := { Duration.longest with nanos := 807000001, nanos_lt := by decide }

def further : Duration := ⟨9223372036854776, 207000001, by decide, by decide⟩

end Sample

/-- Two fifths of a second lead over the epoch, and a length that no step can take leads on to the
calendar's end, in whichever order they come. -/
theorem advance_past_longest :
    Sample.further.exact = Sample.short.exact + Sample.beyond.exact ∧
      (Sample.early.advance Sample.short).advance Sample.beyond = ⟨.last⟩ ∧
      (Sample.early.advance Sample.short).expiresAt Sample.beyond = endless ∧
      (Sample.early.advance Sample.beyond).advance Sample.short = ⟨.last⟩ := by
  have hsum : Sample.further.exact = Sample.short.exact + Sample.beyond.exact := by
    norm_num [Duration.exact, Sample.further, Sample.short, Sample.beyond, Duration.zero,
      Duration.longest]
  have hin : Sample.early.now.exact + Sample.short.exact ≤ Instant.last.exact := by
    norm_num [Duration.exact, Instant.exact, Sample.early, Sample.short, Duration.zero, Instant.last]
  obtain ⟨hparts, -, -, hexpiry⟩ :=
    advance_in_parts Sample.early Sample.short Sample.beyond Sample.further hsum
  obtain ⟨hturned, -⟩ := advance_in_parts Sample.early Sample.beyond Sample.short Sample.further
    (hsum.trans (add_comm _ _))
  exact ⟨hsum, hparts.trans rfl, (hexpiry hin).trans rfl, hturned.trans rfl⟩

end Clock
end Passage
