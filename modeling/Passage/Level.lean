import Passage.Rejection
import Passage.Time

/- Levels: what a client has to do, and for how long that counts.

   A table holds 1 to 255 levels, numbered from 1. A request below or above
   them gets the first or the last. -/
namespace Passage

/-- What a client has to do at a level. -/
inductive Policy where
  /-- Nothing: everybody passes. -/
  | none
  /-- Find a number that gives a digest with leading zeros. -/
  | proofOfWork
  deriving DecidableEq, Repr

namespace Policy

def name : Policy → String
  | none => "none"
  | proofOfWork => "pow"

def ofName? (s : String) : Option Policy :=
  if s = "none" then some none else if s = "pow" then some proofOfWork else Option.none

/-- The policy of a name; no other name is known. -/
def parse (s : String) : Except Rejection Policy :=
  match ofName? s with
  | some policy => .ok policy
  | Option.none => .error .unknownPolicy

/-- The policy of a level that asks for none. -/
def default : Policy := none

end Policy

/-- A hint for the client, one decimal digit. -/
structure Countdown where
  value : UInt8
  value_le : value ≤ 9
  deriving DecidableEq, Repr

namespace Countdown

def ofValue? (n : UInt8) : Option Countdown := if h : n ≤ 9 then some ⟨n, h⟩ else none

/-- The countdown of a level that sets none. -/
def default : Countdown := ⟨3, by decide⟩

/-- The ASCII digit. -/
def digit (c : Countdown) : UInt8 := 48 + c.value

end Countdown

structure Level where
  lifetime : Duration
  policy : Policy
  countdown : Countdown
  deriving DecidableEq, Repr

/-- A level with the usual countdown. -/
def Level.ofParts (lifetime : Duration) (policy : Policy) : Level := ⟨lifetime, policy, .default⟩

/-- Why a list of levels is no table. -/
inductive TableFault where
  | empty
  | tooLong (size : Nat)
  deriving DecidableEq, Repr

def TableFault.message : TableFault → String
  | empty => "At least one level is required"
  | tooLong size => s!"Too many levels: {size}, at most 255"

/-- The most levels a table holds: levels travel as one byte. -/
abbrev maxLevels : Nat := 255

/-- Refuses a list of a size that no table has. -/
def checkTableSize (size : Nat) : Except TableFault Unit :=
  if size = 0 then .error .empty
  else if size > maxLevels then .error (.tooLong size)
  else .ok ()

structure LevelTable where
  levels : List Level
  nonempty : levels ≠ []
  size_le : levels.length ≤ maxLevels
  deriving DecidableEq, Repr

namespace LevelTable

def ofList (levels : List Level) : Except TableFault LevelTable :=
  if h : levels = [] then .error .empty
  else if size_le : levels.length ≤ maxLevels then .ok ⟨levels, h, size_le⟩
  else .error (.tooLong levels.length)

/-- The entry of a level, which is taken as the nearest number the table has. -/
def entry (t : LevelTable) (level : UInt8) : Level :=
  have := List.length_pos_iff.2 t.nonempty
  t.levels.get ⟨min (level.toNat - 1) (t.levels.length - 1), by omega⟩

end LevelTable
end Passage
