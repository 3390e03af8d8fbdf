import Passage.Level
import Passage.Time.DurationText

/- A level as a configuration document describes it. -/
namespace Passage

structure LevelEntry where
  duration : String
  policy : String
  countdown : Option UInt8
  deriving DecidableEq, Repr

/-- Why a duration is no lifetime. -/
inductive LifetimeFault where
  | text (f : DurationText.Fault)
  | zero
  deriving DecidableEq, Repr

def LifetimeFault.message : LifetimeFault → String
  | text f => f.message
  | zero => "must be greater than 0"

/-- Why an entry describes no level. -/
inductive EntryFault where
  | duration (value : String) (reason : LifetimeFault)
  | policy (name : String)
  | countdown (value : UInt8)
  deriving DecidableEq, Repr

def EntryFault.message : EntryFault → String
  | duration value reason => "Invalid duration " ++ Text.quoted value ++ ": " ++ reason.message
  | policy name => "Unknown validation type " ++ Text.quoted name
  | countdown value => s!"Invalid countdown {value}: must be at most 9"

/-- Why a list of entries describes no table. -/
inductive SectionFault where
  | table (f : TableFault)
  | entry (f : EntryFault)
  deriving DecidableEq, Repr

def SectionFault.message : SectionFault → String
  | table f => f.message
  | entry f => f.message

namespace LevelEntry

/-- The lifetime of an entry; white space around its text does not count. -/
def lifetime (e : LevelEntry) : Except (Halt EntryFault) Duration :=
  match DurationText.parse (Text.trim e.duration.toList) with
  | .error halt => .error (halt.map fun f => .duration e.duration (.text f))
  | .ok d => if d.isZero then .error (.refused (.duration e.duration .zero)) else .ok d

/-- The level of an entry: its duration is looked at first, then its policy and its countdown. -/
def level (e : LevelEntry) : Except (Halt EntryFault) Level :=
  match e.lifetime with
  | .error halt => .error halt
  | .ok lifetime =>
    match Policy.ofName? e.policy with
    | none => .error (.refused (.policy e.policy))
    | some policy =>
      match e.countdown with
      | none => .ok ⟨lifetime, policy, .default⟩
      | some value =>
        match Countdown.ofValue? value with
        | none => .error (.refused (.countdown value))
        | some countdown => .ok ⟨lifetime, policy, countdown⟩

/-- The levels of entries, up to the first that describes none. -/
def levels : List LevelEntry → Except (Halt EntryFault) (List Level)
  | [] => .ok []
  | e :: rest =>
    match e.level with
    | .error halt => .error halt
    | .ok l =>
      match levels rest with
      | .error halt => .error halt
      | .ok ls => .ok (l :: ls)

/-- The levels of a section, whose size is looked at first. -/
def sectionLevels (entries : List LevelEntry) : Except (Halt SectionFault) (List Level) :=
  match checkTableSize entries.length with
  | .error f => .error (.refused (.table f))
  | .ok () =>
    match levels entries with
    | .error halt => .error (halt.map .entry)
    | .ok ls => .ok ls

end LevelEntry
end Passage
