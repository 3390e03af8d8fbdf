import Passage.Text
import Passage.Text.Quoted
import Passage.Time

/- Durations as texts: a run of spans, each a decimal number and a unit.

   White space may stand around and inside numbers and ends a unit; a digit
   right behind a unit begins the next span. A number may have a fraction if
   the span is a whole count of nanoseconds. All arithmetic is on 64 bits.
   `0` alone is the zero duration.

   `parse` walks over the characters once. The state between two of them is
   the sum of the finished spans and the `Mode`, what has been read of the
   current one. Offsets count bytes. -/
namespace Passage.DurationText

/-! ## Units -/

inductive TimeUnit where
  | nanosecond | microsecond | millisecond | second | minute
  | hour | day | week | month | year
  deriving DecidableEq, Repr

def TimeUnit.ofName? (name : String) : Option TimeUnit :=
  if name ∈ ["nanos", "nsec", "ns"] then some .nanosecond
  else if name ∈ ["usec", "us", "µs"] then some .microsecond
  else if name ∈ ["millis", "msec", "ms"] then some .millisecond
  else if name ∈ ["seconds", "second", "secs", "sec", "s"] then some .second
  else if name ∈ ["minutes", "minute", "min", "mins", "m"] then some .minute
  else if name ∈ ["hours", "hour", "hr", "hrs", "h"] then some .hour
  else if name ∈ ["days", "day", "d"] then some .day
  else if name ∈ ["weeks", "week", "wk", "wks", "w"] then some .week
  else if name ∈ ["months", "month", "M"] then some .month
  else if name ∈ ["years", "year", "yr", "yrs", "y"] then some .year
  else none

/-- Nanoseconds of a unit below a second; 0 for the others, which are counted in seconds. -/
def TimeUnit.nanos : TimeUnit → Nat
  | nanosecond => 1
  | microsecond => 1000
  | millisecond => 1000000
  | _ => 0

/-- Seconds of a unit from the second on; 0 for the smaller ones. A month is a twelfth of a year
    and a year 365.25 days. -/
def TimeUnit.seconds : TimeUnit → Nat
  | nanosecond | microsecond | millisecond => 0
  | second => 1
  | minute => 60
  | hour => 3600
  | day => 86400
  | week => 604800
  | month => 2630016
  | year => 31557600

/-- A unit's letters: ASCII ones and the micro sign. -/
def isUnitLetter (c : Char) : Bool := c.isAlpha || c == 'µ'

/-! ## Faults -/

inductive Fault where
  | empty
  | numberExpected (offset : Nat)
  | invalidCharacter (offset : Nat)
  | tooLarge
  | unitNeeded (number : Nat)
  | unknownUnit (name : String)
  deriving DecidableEq, Repr

def Fault.message : Fault → String
  | empty => "value was empty"
  | numberExpected offset => s!"expected number at {offset}"
  | invalidCharacter offset => s!"invalid character at {offset}"
  | tooLarge => "number is too large or cannot be represented without a lack of precision "
      ++ "(values below 1ns are not supported)"
  | unitNeeded number => s!"time unit needed, for example {number}sec or {number}ms"
  | unknownUnit name => "unknown time unit " ++ Text.quoted name
      ++ ", supported units: ns, us/µs, ms, sec, min, hours, days, weeks, months, years "
      ++ "(and few variations)"

/-! ## Sums -/

/-- A number that must fit 64 bits. -/
def fit (n : Nat) : Except (Halt Fault) Nat :=
  if n < wordLimit then .ok n else .error (.refused .tooLarge)

/-- A quotient that must be exact and whose dividend must fit 64 bits. -/
def exactly (n divisor : Nat) : Except (Halt Fault) Nat := do
  let n ← fit n
  if n % divisor = 0 then return n / divisor else throw (.refused .tooLarge)

/-- The duration of 64-bit seconds and at most a second's nanoseconds. -/
def carried (seconds nanos : Nat) : Except (Halt Fault) Duration :=
  match Duration.ofParts? (seconds + nanos / billion) (nanos % billion) with
  | some d => .ok d
  | none => .error .aborted

/-- Adds to a sum. Nanoseconds of exactly one second are carried last, without a check: that
    carry can leave 64 bits, and then the sum is aborted. -/
def add (total : Duration) (seconds nanos : Nat) : Except (Halt Fault) Duration := do
  let nanos ← fit (total.nanos + nanos)
  let carry := if nanos > billion then nanos / billion else 0
  let rest := if nanos > billion then nanos % billion else nanos
  let seconds ← fit (seconds + carry)
  let seconds ← fit (total.seconds + seconds)
  carried seconds rest

/-- The digits behind a decimal point: their value, and ten to their number. -/
structure Fraction where
  numerator : Nat
  denominator : Nat
  deriving DecidableEq, Repr

/-- Adds a span of a known unit: the whole part first. -/
def addSpan (total : Duration) (number : Nat) (fraction : Option Fraction) (u : TimeUnit) :
    Except (Halt Fault) Duration := do
  let seconds ← fit (number * u.seconds)
  let nanos ← fit (number * u.nanos)
  let total ← add total seconds nanos
  match fraction with
  | none => return total
  | some f =>
    match u with
    | .nanosecond => throw (.refused .tooLarge)
    | .microsecond | .millisecond =>
      add total 0 (← exactly (f.numerator * u.nanos) f.denominator)
    | .second | .minute =>
      add total 0 (← exactly (f.numerator * (u.seconds * billion)) f.denominator)
    | _ => add total (← exactly (f.numerator * u.seconds) f.denominator) 0

/-- Adds a span whose unit is still a name. -/
def addNamed (total : Duration) (number : Nat) (fraction : Option Fraction) (name : List Char) :
    Except (Halt Fault) Duration :=
  match TimeUnit.ofName? (String.ofList name) with
  | some u => addSpan total number fraction u
  | none =>
    if name = [] then .error (.refused (.unitNeeded number))
    else .error (.refused (.unknownUnit (String.ofList name)))

/-! ## Reading -/

/-- What has been read of the current span. -/
inductive Mode where
  /-- Nothing but white space since offset `start`. -/
  | start (start : Nat)
  /-- The whole part, `number` so far. -/
  | integer (number : Nat)
  /-- A decimal point and what follows it; `last` is the offset behind the character read last
      of the fraction, or the point's. -/
  | fraction (number : Nat) (digits : Fraction) (last : Nat)
  /-- A number and the letters so far of its unit. -/
  | unit (number : Nat) (fraction : Option Fraction) (name : List Char)
  deriving DecidableEq, Repr

/-- The sum of the finished spans and the current one. -/
structure State where
  total : Duration
  mode : Mode
  deriving DecidableEq, Repr

/-- Reads one character, which stands at `offset`. -/
def State.step (s : State) (offset : Nat) (c : Char) : Except (Halt Fault) State :=
  match s.mode with
  | .start start =>
    if c.isDigit then .ok { s with mode := .integer (Text.digitValue c) }
    else if Text.isBlank c then .ok s
    else .error (.refused (.numberExpected start))
  | .integer number =>
    if c.isDigit then do
      let number ← fit (number * 10 + Text.digitValue c)
      return { s with mode := .integer number }
    else if Text.isBlank c then .ok s
    else if isUnitLetter c then .ok { s with mode := .unit number none [c] }
    else if c = '.' then .ok { s with mode := .fraction number ⟨0, 1⟩ offset }
    else .error (.refused (.invalidCharacter offset))
  | .fraction number digits last =>
    if c.isDigit then do
      let denominator ← fit (digits.denominator * 10)
      let numerator ← fit (digits.numerator * 10 + Text.digitValue c)
      return { s with mode := .fraction number ⟨numerator, denominator⟩ (offset + 1) }
    else if Text.isBlank c then
      .ok { s with mode := .fraction number digits (offset + c.utf8Size) }
    else if isUnitLetter c ∧ digits.denominator ≠ 1 then
      .ok { s with mode := .unit number (some digits) [c] }
    else .error (.refused (.invalidCharacter last))
  | .unit number fraction name =>
    if c.isDigit then do
      return ⟨← addNamed s.total number fraction name, .integer (Text.digitValue c)⟩
    else if Text.isBlank c then do
      return ⟨← addNamed s.total number fraction name, .start (offset + c.utf8Size)⟩
    else if isUnitLetter c then .ok { s with mode := .unit number fraction (name ++ [c]) }
    else .error (.refused (.invalidCharacter offset))

/-- The sum at the end of the text. Only before the first span has `start` the offset 0. -/
def State.finish (s : State) : Except (Halt Fault) Duration :=
  match s.mode with
  | .start 0 => .error (.refused .empty)
  | .start _ => .ok s.total
  | .integer number => addNamed s.total number none []
  | .fraction number digits last =>
    if digits.denominator = 1 then .error (.refused (.invalidCharacter last))
    else addNamed s.total number (some digits) []
  | .unit number fraction name => addNamed s.total number fraction name

/-- Reads the characters from `offset` on. -/
def State.read (s : State) (offset : Nat) : List Char → Except (Halt Fault) Duration
  | [] => s.finish
  | c :: rest => do
    let s ← s.step offset c
    s.read (offset + c.utf8Size) rest

def parse (cs : List Char) : Except (Halt Fault) Duration :=
  if cs = ['0'] then .ok .zero else State.read ⟨.zero, .start 0⟩ 0 cs

end Passage.DurationText
