import Passage.Bytes

/- Lengths of time, points in time, and a clock.

   A length is whole seconds of 64 bits and nanoseconds below a second;
   `capped` keeps it within the longest step a calendar can take, which is far
   beyond the calendar's end.

   An instant is seconds from the epoch, rounded down, and nanoseconds. The
   calendar runs from the year -262143 through the year 262142; a sum past its
   end has no instant.

   A clock shows the instant it was last set to. Tokens carry the second at
   which they expire as 64 bits: instants before the epoch count as 0, and an
   expiry past the calendar's end as 2^64 - 1. -/
namespace Passage

/-! ## Lengths -/

/-- Nanoseconds in a second. -/
abbrev billion : Nat := 1000000000

structure Duration where
  seconds : Nat
  nanos : Nat
  seconds_lt : seconds < wordLimit
  nanos_lt : nanos < billion
  deriving DecidableEq, Repr

namespace Duration

def ofParts? (seconds nanos : Nat) : Option Duration :=
  if h : seconds < wordLimit ∧ nanos < billion then some ⟨seconds, nanos, h.1, h.2⟩ else none

def zero : Duration := ⟨0, 0, by decide, by decide⟩

/-- The whole length in nanoseconds. -/
def toNanos (d : Duration) : Nat := d.seconds * billion + d.nanos

def isZero (d : Duration) : Bool := d.seconds == 0 && d.nanos == 0

/-- The longest step: as many milliseconds as 63 bits count. -/
def longest : Duration := ⟨9223372036854775, 807000000, by decide, by decide⟩

/-- The length itself, or the longest step if that is shorter. -/
def capped (d : Duration) : Duration :=
  if longest.seconds < d.seconds ∨ (d.seconds = longest.seconds ∧ longest.nanos < d.nanos) then
    longest
  else d

end Duration

/-! ## Instants -/

structure Instant where
  seconds : Int
  nanos : Nat
  seconds_ge : -8334601228800 ≤ seconds
  seconds_le : seconds ≤ 8210266876799
  nanos_le : nanos ≤ 999999999
  deriving DecidableEq, Repr

namespace Instant

/-- The first second of the calendar. -/
abbrev firstSecond : Int := -8334601228800

/-- The last second of the calendar. -/
abbrev lastSecond : Int := 8210266876799

def ofParts? (seconds : Int) (nanos : Nat) : Option Instant :=
  if h : firstSecond ≤ seconds ∧ seconds ≤ lastSecond ∧ nanos ≤ 999999999 then
    some ⟨seconds, nanos, h.1, h.2.1, h.2.2⟩
  else none

/-- The last instant of the calendar. -/
def last : Instant := ⟨lastSecond, 999999999, by decide, by decide, by decide⟩

/-- Nanoseconds from the epoch. -/
def toNanos (t : Instant) : Int := t.seconds * (billion : Int) + t.nanos

/-- The instant that comes `d` later, if the calendar has it. -/
def after? (t : Instant) (d : Duration) : Option Instant :=
  let nanos := t.nanos + d.nanos
  let carry := nanos / billion
  if h : t.seconds + d.seconds + carry ≤ lastSecond then
    some ⟨t.seconds + d.seconds + carry, nanos % billion,
      by have := t.seconds_ge; clear h; clear_value carry; omega, h,
      Nat.le_of_lt_succ (Nat.mod_lt _ (by decide))⟩
  else none

end Instant

/-! ## Clocks -/

structure Clock where
  now : Instant
  deriving DecidableEq, Repr

namespace Clock

/-- The largest expiry, of what never expires. -/
abbrev endless : Nat := wordLimit - 1

/-- Whole seconds since the epoch, 0 before it. -/
def unixSeconds (c : Clock) : Nat := c.now.seconds.toNat

/-- The second at which something expires that is made now and lives for `lifetime`. -/
def expiresAt (c : Clock) (lifetime : Duration) : Nat :=
  match c.now.after? lifetime.capped with
  | some t => t.seconds.toNat
  | none => endless

def set (_ : Clock) (t : Instant) : Clock := ⟨t⟩

/-- Moves on by `d`, at most to the calendar's end. -/
def advance (c : Clock) (d : Duration) : Clock :=
  match c.now.after? d.capped with
  | some t => ⟨t⟩
  | none => ⟨.last⟩

/-! Runs. -/

/-- One call on a clock. -/
inductive Op where
  | now
  | set (t : Instant)
  | advance (d : Duration)
  | expiresAt (lifetime : Duration)
  deriving DecidableEq, Repr

/-- The expiry asked for, if any, and the clock after the call. -/
def apply (c : Clock) : Op → Option Nat × Clock
  | .now => (none, c)
  | .set t => (none, c.set t)
  | .advance d => (none, c.advance d)
  | .expiresAt lifetime => (some (c.expiresAt lifetime), c)

end Clock

end Passage
