import Passage.Time.DurationText

/- When a duration text ends everything.

   A text is a sum of spans on 64 bits. Every addition is checked but one, the second
   that nanoseconds of exactly one second make in the end.

   1. An addition is aborted exactly if the seconds add up to the last number of 64 bits
      and the nanoseconds to one second (`add_aborted_iff`). The exact sum is then 2^64
      seconds (`Carries.sum`).
   2. An addition that gives a sum is exact (`toNanos_add`). A span is added in one part or
      two, and each of them can carry (`addSpan_aborted_iff`), exactly at 2^64 seconds
      (`SpanCarries.sum`).
   3. One step of the reader is aborted exactly if it ends a span that carries
      (`step_aborted_iff`, `finish_aborted_iff`). So a text is aborted exactly if it can be
      read up to the end of such a span (`read_aborted_iff`, `parse_aborted_iff`), and then
      its spans so far make up 2^64 seconds (`Overruns.fillsUp`). -/
namespace Passage

/-- What is bound fails if its first part does, or what follows its value. -/
theorem bind_eq_error_iff {ε α β : Type} {x : Except ε α} {f : α → Except ε β} {e : ε} :
    x >>= f = .error e ↔ x = .error e ∨ ∃ a, x = .ok a ∧ f a = .error e := by
  cases x <;> simp [bind, Except.bind]

theorem bind_eq_ok_iff {ε α β : Type} {x : Except ε α} {f : α → Except ε β} {b : β} :
    x >>= f = .ok b ↔ ∃ a, x = .ok a ∧ f a = .ok b := by
  cases x <;> simp [bind, Except.bind]

namespace DurationText

theorem fit_eq_ok_iff {n m : Nat} : fit n = .ok m ↔ n < wordLimit ∧ n = m := by
  rw [fit]
  split <;> simp [*]

theorem fit_ne_aborted (n : Nat) : fit n ≠ .error .aborted := by
  rw [fit]
  split <;> simp

theorem exactly_eq_ok_iff {n divisor q : Nat} :
    exactly n divisor = .ok q ↔ n < wordLimit ∧ n % divisor = 0 ∧ n / divisor = q := by
  rw [exactly, fit]
  by_cases hn : n < wordLimit
  · rw [if_pos hn]
    by_cases hd : n % divisor = 0
    · simp [bind, Except.bind, hn, hd, pure, Except.pure]
    · simp [bind, Except.bind, hd, throw, throwThe, MonadExceptOf.throw]
  · simp [bind, Except.bind, hn]

theorem exactly_ne_aborted (n divisor : Nat) : exactly n divisor ≠ .error .aborted := by
  simp only [exactly, ne_eq, bind_eq_error_iff, fit_ne_aborted, false_or, not_exists, not_and]
  intro m _
  split <;> simp [throw, throwThe, MonadExceptOf.throw, pure, Except.pure]

/-! Sums. -/

/-- The seconds add up to the last number of 64 bits, and the nanoseconds to one second more. -/
def Carries (total : Duration) (seconds nanos : Nat) : Prop :=
  total.seconds + seconds = wordLimit - 1 ∧ total.nanos + nanos = billion

theorem Carries.sum {total : Duration} {seconds nanos : Nat} (h : Carries total seconds nanos) :
    total.toNanos + (seconds * billion + nanos) = wordLimit * billion := by
  obtain ⟨hs, hn⟩ := h
  unfold Duration.toNanos billion wordLimit at *
  omega

theorem carried_aborted_iff {seconds nanos : Nat} (hs : seconds < wordLimit) (hn : nanos ≤ billion) :
    carried seconds nanos = .error .aborted ↔ seconds = wordLimit - 1 ∧ nanos = billion := by
  have hnone : carried seconds nanos = .error .aborted ↔
      ¬(seconds + nanos / billion < wordLimit ∧ nanos % billion < billion) := by
    rw [carried, Duration.ofParts?]
    by_cases hfits : seconds + nanos / billion < wordLimit ∧ nanos % billion < billion
    · rw [dif_pos hfits]
      exact ⟨fun h => (nomatch h), fun h => absurd hfits h⟩
    · rw [dif_neg hfits]
      exact ⟨fun _ => hfits, fun _ => rfl⟩
  rw [hnone]
  unfold billion wordLimit at *
  omega

/-- An addition is aborted exactly if its last second does not fit. -/
theorem add_aborted_iff (total : Duration) (seconds nanos : Nat) :
    add total seconds nanos = .error .aborted ↔ Carries total seconds nanos := by
  have hn := total.nanos_lt
  simp only [add, bind_eq_error_iff, fit_ne_aborted, false_or, fit_eq_ok_iff, and_assoc,
    exists_and_left, exists_eq_left']
  rw [Carries]
  by_cases hmore : total.nanos + nanos > billion
  · -- More than a second of nanoseconds is carried before the last check.
    have hrest : (total.nanos + nanos) % billion < billion := Nat.mod_lt _ (by decide)
    rw [if_pos hmore, if_pos hmore]
    constructor
    · rintro ⟨-, -, hs, hcarried⟩
      have hfull := ((carried_aborted_iff hs (Nat.le_of_lt hrest)).mp hcarried).2
      exact absurd hfull (Nat.ne_of_lt hrest)
    · rintro ⟨-, hfull⟩
      exact absurd hfull (Nat.ne_of_gt hmore)
  · rw [if_neg hmore, if_neg hmore, Nat.add_zero]
    constructor
    · rintro ⟨-, -, hs, hcarried⟩
      exact (carried_aborted_iff hs (Nat.le_of_not_gt hmore)).mp hcarried
    · rintro ⟨hs, hfull⟩
      have hlast : total.seconds + seconds < wordLimit := by
        rw [hs]
        decide
      refine ⟨?_, Nat.lt_of_le_of_lt (Nat.le_add_left ..) hlast, hlast,
        (carried_aborted_iff hlast (Nat.le_of_not_gt hmore)).mpr ⟨hs, hfull⟩⟩
      rw [hfull]
      decide

theorem toNanos_carried {sum : Duration} {seconds nanos : Nat} (h : carried seconds nanos = .ok sum) :
    sum.toNanos = seconds * billion + nanos := by
  rw [carried, Duration.ofParts?] at h
  by_cases hfits : seconds + nanos / billion < wordLimit ∧ nanos % billion < billion
  · rw [dif_pos hfits] at h
    cases h
    show (seconds + nanos / billion) * billion + nanos % billion = _
    rw [Nat.add_mul, Nat.add_assoc, Nat.mul_comm (nanos / billion), Nat.div_add_mod]
  · rw [dif_neg hfits] at h
    cases h

theorem toNanos_add {total sum : Duration} {seconds nanos : Nat}
    (h : add total seconds nanos = .ok sum) :
    sum.toNanos = total.toNanos + (seconds * billion + nanos) := by
  simp only [add, bind_eq_ok_iff, fit_eq_ok_iff] at h
  obtain ⟨_, ⟨-, rfl⟩, _, ⟨-, rfl⟩, _, ⟨-, rfl⟩, hcarried⟩ := h
  rw [toNanos_carried hcarried]
  unfold Duration.toNanos billion
  split <;> omega

theorem lt_of_add {total sum : Duration} {seconds nanos : Nat} (h : add total seconds nanos = .ok sum) :
    seconds < wordLimit ∧ nanos < wordLimit := by
  simp only [add, bind_eq_ok_iff, fit_eq_ok_iff] at h
  obtain ⟨_, ⟨hn, rfl⟩, _, ⟨hs, rfl⟩, -⟩ := h
  exact ⟨Nat.lt_of_le_of_lt (Nat.le_add_right ..) hs, Nat.lt_of_le_of_lt (Nat.le_add_left ..) hn⟩

/-! Spans. -/

/-- Nanoseconds of one unit, where fractions of it are counted in nanoseconds. -/
def TimeUnit.split? : TimeUnit → Option Nat
  | microsecond => some 1000
  | millisecond => some 1000000
  | second => some billion
  | minute => some (60 * billion)
  | _ => none

/-- A fraction of the unit is this whole count of nanoseconds. -/
def Fraction.IsNanos (f : Fraction) (u : TimeUnit) (nanos : Nat) : Prop :=
  ∃ scale, u.split? = some scale ∧ f.numerator * scale < wordLimit ∧
    f.numerator * scale % f.denominator = 0 ∧ f.numerator * scale / f.denominator = nanos

def addFraction (total : Duration) (f : Fraction) (u : TimeUnit) : Except (Halt Fault) Duration :=
  match u with
  | .nanosecond => .error (.refused .tooLarge)
  | .microsecond | .millisecond => do
    add total 0 (← exactly (f.numerator * u.nanos) f.denominator)
  | .second | .minute => do
    add total 0 (← exactly (f.numerator * (u.seconds * billion)) f.denominator)
  | _ => do add total (← exactly (f.numerator * u.seconds) f.denominator) 0

/-- The whole part is added before the fraction. -/
theorem addSpan_eq (total : Duration) (number : Nat) (fraction : Option Fraction) (u : TimeUnit) :
    addSpan total number fraction u = (do
      let seconds ← fit (number * u.seconds)
      let nanos ← fit (number * u.nanos)
      let total ← add total seconds nanos
      match fraction with
      | none => return total
      | some f => addFraction total f u) := by
  cases fraction with
  | none => rfl
  | some f => cases u <;> rfl

theorem addFraction_aborted_iff (total : Duration) (f : Fraction) (u : TimeUnit) :
    addFraction total f u = .error .aborted ↔ ∃ nanos, f.IsNanos u nanos ∧ Carries total 0 nanos := by
  have hnever : ∀ seconds, ¬Carries total seconds 0 := fun _ h => Nat.ne_of_lt total.nanos_lt h.2
  have hcounted : ∀ scale, (exactly (f.numerator * scale) f.denominator >>= add total 0) =
      .error .aborted ↔ ∃ nanos, (f.numerator * scale < wordLimit ∧
        f.numerator * scale % f.denominator = 0 ∧ f.numerator * scale / f.denominator = nanos) ∧
        Carries total 0 nanos := by
    intro scale
    simp only [bind_eq_error_iff, exactly_ne_aborted, false_or, exactly_eq_ok_iff, add_aborted_iff]
  have hnot : ∀ scale, (exactly (f.numerator * scale) f.denominator >>= (add total · 0)) ≠
      .error .aborted := by
    intro scale
    simp only [ne_eq, bind_eq_error_iff, exactly_ne_aborted, false_or, add_aborted_iff, hnever,
      and_false, exists_false, not_false_iff]
  cases u <;>
    simp [addFraction, Fraction.IsNanos, TimeUnit.split?, TimeUnit.nanos, TimeUnit.seconds, hcounted,
      hnot]

/-- The sum reaches its end within the span: in the whole part or in the fraction. -/
def SpanCarries (total : Duration) (number : Nat) (fraction : Option Fraction) (u : TimeUnit) : Prop :=
  Carries total 0 (number * u.nanos) ∨
    ∃ f sum nanos, fraction = some f ∧
      add total (number * u.seconds) (number * u.nanos) = .ok sum ∧ f.IsNanos u nanos ∧
      Carries sum 0 nanos

/-- Units that count nanoseconds count no seconds. -/
theorem carries_unit_iff (total : Duration) (number : Nat) (u : TimeUnit) :
    Carries total (number * u.seconds) (number * u.nanos) ↔ Carries total 0 (number * u.nanos) := by
  have hn := total.nanos_lt
  cases u <;> simp only [Carries, TimeUnit.seconds, TimeUnit.nanos, Nat.mul_zero, Nat.add_zero] <;> omega

/-- A span that carries brings the exact sum to 2^64 seconds, in its whole part or in its
fraction. -/
theorem SpanCarries.sum {total : Duration} {number : Nat} {fraction : Option Fraction} {u : TimeUnit}
    (h : SpanCarries total number fraction u) : ∃ nanos,
      (nanos = 0 ∨ ∃ f, fraction = some f ∧ f.IsNanos u nanos) ∧
      total.toNanos + (number * u.seconds * billion + number * u.nanos) + nanos =
        wordLimit * billion := by
  rcases h with hwhole | ⟨f, sum, nanos, hf, hsum, hnanos, hcarries⟩
  · refine ⟨0, .inl rfl, ?_⟩
    rw [Nat.add_zero]
    exact ((carries_unit_iff total number u).mpr hwhole).sum
  · have hend := hcarries.sum
    rw [toNanos_add hsum, Nat.zero_mul, Nat.zero_add] at hend
    exact ⟨nanos, .inr ⟨f, hf, hnanos⟩, hend⟩

theorem addSpan_aborted_iff (total : Duration) (number : Nat) (fraction : Option Fraction)
    (u : TimeUnit) :
    addSpan total number fraction u = .error .aborted ↔ SpanCarries total number fraction u := by
  simp only [addSpan_eq, bind_eq_error_iff, fit_ne_aborted, false_or, fit_eq_ok_iff, and_assoc,
    exists_and_left, exists_eq_left', add_aborted_iff]
  rw [SpanCarries, ← carries_unit_iff]
  constructor
  · rintro ⟨hs, hn, hwhole | ⟨sum, hsum, hrest⟩⟩
    · exact .inl hwhole
    · cases fraction with
      | none => cases hrest
      | some f =>
        obtain ⟨nanos, hnanos, hcarries⟩ := (addFraction_aborted_iff sum f u).mp hrest
        exact .inr ⟨f, sum, nanos, rfl, hsum, hnanos, hcarries⟩
  · rintro (hwhole | ⟨f, sum, nanos, rfl, hsum, hnanos, hcarries⟩)
    · have hs := hwhole.1
      have hn := hwhole.2
      unfold wordLimit billion at *
      exact ⟨by omega, by omega, .inl hwhole⟩
    · obtain ⟨hs, hn⟩ := lt_of_add hsum
      exact ⟨hs, hn, .inr ⟨sum, hsum, (addFraction_aborted_iff sum f u).mpr ⟨nanos, hnanos, hcarries⟩⟩⟩

/-- A span whose unit is no unit is refused. -/
theorem addNamed_aborted_iff (total : Duration) (number : Nat) (fraction : Option Fraction)
    (name : List Char) :
    addNamed total number fraction name = .error .aborted ↔
      ∃ u, TimeUnit.ofName? (String.ofList name) = some u ∧ SpanCarries total number fraction u := by
  rw [addNamed]
  cases TimeUnit.ofName? (String.ofList name) with
  | some u => simp only [addSpan_aborted_iff, Option.some.injEq, exists_eq_left']
  | none => by_cases hempty : name = [] <;> simp [hempty]

/-! Texts. -/

namespace State

/-- The state after characters from `offset` on. -/
def after (s : State) (offset : Nat) : List Char → Except (Halt Fault) State
  | [] => .ok s
  | c :: rest => do
    let s ← s.step offset c
    s.after (offset + c.utf8Size) rest

/-- The unit that is being read ends here, before `next` or with the text, and its span carries. -/
def Overruns (s : State) (next : Option Char) : Prop :=
  ∃ number fraction name u, s.mode = .unit number fraction name ∧
    (∀ c ∈ next, c.isDigit ∨ Text.isBlank c) ∧ TimeUnit.ofName? (String.ofList name) = some u ∧
    SpanCarries s.total number fraction u

/-- With the span that ends here the exact sum is 2^64 seconds: that of the finished spans, the whole
part of this one and, if it comes to it, the fraction. -/
def FillsUp (s : State) : Prop :=
  ∃ number fraction name u nanos, s.mode = .unit number fraction name ∧
    TimeUnit.ofName? (String.ofList name) = some u ∧
    (nanos = 0 ∨ ∃ f, fraction = some f ∧ f.IsNanos u nanos) ∧
    s.total.toNanos + (number * u.seconds * billion + number * u.nanos) + nanos =
      wordLimit * billion

theorem Overruns.fillsUp {s : State} {next : Option Char} (h : s.Overruns next) : s.FillsUp := by
  obtain ⟨number, fraction, name, u, hmode, -, hu, hspan⟩ := h
  obtain ⟨nanos, hnanos, hsum⟩ := hspan.sum
  exact ⟨number, fraction, name, u, nanos, hmode, hu, hnanos, hsum⟩

theorem overruns_unit_iff (total : Duration) (number : Nat) (fraction : Option Fraction)
    (name : List Char) (next : Option Char) :
    Overruns ⟨total, .unit number fraction name⟩ next ↔
      (∀ c ∈ next, c.isDigit ∨ Text.isBlank c) ∧
        addNamed total number fraction name = .error .aborted := by
  rw [addNamed_aborted_iff]
  constructor
  · rintro ⟨_, _, _, u, hmode, hend, hu, hspan⟩
    cases hmode
    exact ⟨hend, u, hu, hspan⟩
  · rintro ⟨hend, u, hu, hspan⟩
    exact ⟨number, fraction, name, u, rfl, hend, hu, hspan⟩

/-- Only the end of a unit adds anything. -/
theorem not_overruns {s : State} (h : ∀ number fraction name, s.mode ≠ .unit number fraction name)
    (next : Option Char) : ¬s.Overruns next :=
  fun ⟨number, fraction, name, _, hmode, _⟩ => h number fraction name hmode

theorem step_aborted_iff (s : State) (offset : Nat) (c : Char) :
    s.step offset c = .error .aborted ↔ s.Overruns (some c) := by
  obtain ⟨total, mode⟩ := s
  -- Outside of a unit nothing is added, and what does not go on is refused.
  cases mode with
  | start start =>
    refine iff_of_false ?_ (not_overruns (by simp) _)
    simp only [step]
    split
    · simp
    · split <;> simp
  | integer number =>
    refine iff_of_false ?_ (not_overruns (by simp) _)
    simp only [step]
    split
    · simp [bind_eq_error_iff, fit_ne_aborted, pure, Except.pure]
    · split
      · simp
      · split
        · simp
        · split <;> simp
  | fraction number digits last =>
    refine iff_of_false ?_ (not_overruns (by simp) _)
    simp only [step]
    split
    · simp [bind_eq_error_iff, fit_ne_aborted, pure, Except.pure]
    · split
      · simp
      · split <;> simp
  | unit number fraction name =>
    simp only [overruns_unit_iff, Option.mem_some_iff, forall_eq', step]
    by_cases hdigit : c.isDigit
    · simp [hdigit, bind_eq_error_iff, pure, Except.pure]
    · by_cases hblank : Text.isBlank c
      · simp [hdigit, hblank, bind_eq_error_iff, pure, Except.pure]
      · by_cases hletter : isUnitLetter c <;> simp [hdigit, hblank, hletter]

theorem finish_aborted_iff (s : State) : s.finish = .error .aborted ↔ s.Overruns none := by
  obtain ⟨total, mode⟩ := s
  have hunitless : TimeUnit.ofName? (String.ofList []) = none := by decide
  cases mode with
  | start start =>
    refine iff_of_false ?_ (not_overruns (by simp) _)
    cases start <;> simp [finish]
  | integer number =>
    refine iff_of_false ?_ (not_overruns (by simp) _)
    simp [finish, addNamed, hunitless]
  | fraction number digits last =>
    refine iff_of_false ?_ (not_overruns (by simp) _)
    simp only [finish]
    split
    · simp
    · simp [addNamed, hunitless]
  | unit number fraction name =>
    simp [overruns_unit_iff, finish]

/-- A text is aborted exactly if it can be read up to the end of a span that carries. -/
theorem read_aborted_iff (s : State) (offset : Nat) (cs : List Char) :
    s.read offset cs = .error .aborted ↔ ∃ before rest s', cs = before ++ rest ∧
      s.after offset before = .ok s' ∧ s'.Overruns rest.head? := by
  -- Either the first step ends everything, or the rest does from the state that it leaves.
  induction cs generalizing s offset with
  | nil =>
    rw [read, finish_aborted_iff]
    constructor
    · intro h
      exact ⟨[], [], s, rfl, rfl, h⟩
    · rintro ⟨before, rest, s', hcs, hafter, h⟩
      obtain ⟨rfl, rfl⟩ := List.append_eq_nil_iff.mp hcs.symm
      cases hafter
      exact h
  | cons c cs ih =>
    rw [read, bind_eq_error_iff, step_aborted_iff]
    constructor
    · rintro (h | ⟨t, hstep, hread⟩)
      · exact ⟨[], c :: cs, s, rfl, rfl, h⟩
      · obtain ⟨before, rest, s', rfl, hafter, h⟩ := (ih t _).mp hread
        exact ⟨c :: before, rest, s', rfl, bind_eq_ok_iff.mpr ⟨t, hstep, hafter⟩, h⟩
    · rintro ⟨before, rest, s', hcs, hafter, h⟩
      cases before with
      | nil =>
        obtain rfl : c :: cs = rest := hcs
        cases hafter
        exact .inl h
      | cons d before =>
        obtain ⟨rfl, rfl⟩ := List.cons.inj hcs
        obtain ⟨t, hstep, hafter⟩ := bind_eq_ok_iff.mp hafter
        exact .inr ⟨t, hstep, (ih t _).mpr ⟨before, rest, s', rfl, hafter, h⟩⟩

end State

/-- The text can be read up to the end of a span that carries. -/
def Overruns (cs : List Char) : Prop :=
  ∃ before rest s, cs = before ++ rest ∧ State.after ⟨.zero, .start 0⟩ 0 before = .ok s ∧
    s.Overruns rest.head?

/-- The text can be read up to the end of a span that makes the exact sum 2^64 seconds. -/
def FillsUp (cs : List Char) : Prop :=
  ∃ before rest s, cs = before ++ rest ∧ State.after ⟨.zero, .start 0⟩ 0 before = .ok s ∧ s.FillsUp

theorem Overruns.fillsUp {cs : List Char} (h : Overruns cs) : FillsUp cs := by
  obtain ⟨before, rest, s, hcs, hafter, hoverruns⟩ := h
  exact ⟨before, rest, s, hcs, hafter, hoverruns.fillsUp⟩

theorem parse_aborted_iff (cs : List Char) : parse cs = .error .aborted ↔ Overruns cs := by
  rw [Overruns, ← State.read_aborted_iff, parse]
  split
  · next hzero =>
    rw [hzero]
    exact ⟨fun h => (nomatch h), fun h => (nomatch h)⟩
  · rfl

end DurationText
end Passage
