import Passage.Config
import Passage.Proofs.DurationSums

/- When a configuration ends everything instead of being refused.

   A document is checked in a fixed order and the first failure decides, be it a fault
   that is told or an abort.

   1. A list is checked up to its first failure (`mapM_eq_error_iff`), entries
      (`LevelEntry.levels_eq_mapM`) and tables (`Document.allLevels_eq_mapM`) alike.
   2. Nothing aborts but a duration: an entry (`LevelEntry.level_aborted_iff`), a section
      (`LevelEntry.sectionLevels_aborted_iff`), a document (`Document.config_aborted_iff`).
   3. So a text is loaded or refused exactly if the check of its document does not come to
      a duration that overruns (`Config.parse_aborted_iff`), which is one whose spans make
      up 2^64 seconds (`DurationText.Overruns.fillsUp`). There are texts for which it does
      (`Config.overrunning`). -/
namespace Passage

def ends {ε α : Type} : Except (Halt ε) α → Bool
  | .error .aborted => true
  | _ => false

theorem ends_iff {ε α : Type} {x : Except (Halt ε) α} : ends x = true ↔ x = .error .aborted := by
  cases x with
  | ok a => simp [ends]
  | error halt => cases halt <;> simp [ends]

theorem told_iff {ε α : Type} {x : Except (Halt ε) α} :
    ((∃ a, x = .ok a) ∨ ∃ fault, x = .error (.refused fault)) ↔ x ≠ .error .aborted := by
  cases x with
  | ok a => simp
  | error halt => cases halt <;> simp

@[simp] theorem Halt.map_eq_aborted_iff {ε δ : Type} {f : ε → δ} {halt : Halt ε} :
    halt.map f = .aborted ↔ halt = .aborted := by
  cases halt <;> simp [Halt.map]

theorem mapM_cons_eq_error_iff {ε α β : Type} {f : α → Except ε β} {a : α} {xs : List α} {e : ε} :
    (a :: xs).mapM f = .error e ↔ f a = .error e ∨ (∃ y, f a = .ok y) ∧ xs.mapM f = .error e := by
  simp only [List.mapM_cons, bind_eq_error_iff, pure, Except.pure, reduceCtorEq, and_false,
    exists_false, or_false, exists_and_right]

/-- A list fails with the first of its elements that fails. -/
theorem mapM_eq_error_iff {ε α β : Type} {f : α → Except ε β} {xs : List α} {e : ε} :
    xs.mapM f = .error e ↔ ∃ before x rest, xs = before ++ x :: rest ∧
      (∀ b ∈ before, ∃ y, f b = .ok y) ∧ f x = .error e := by
  induction xs with
  | nil => simp [pure, Except.pure]
  | cons a xs ih =>
    rw [mapM_cons_eq_error_iff]
    constructor
    · rintro (ha | ⟨hy, hxs⟩)
      · exact ⟨[], a, xs, rfl, List.forall_mem_nil _, ha⟩
      · obtain ⟨before, x, rest, rfl, hbefore, hx⟩ := ih.mp hxs
        exact ⟨a :: before, x, rest, rfl, List.forall_mem_cons.mpr ⟨hy, hbefore⟩, hx⟩
    · rintro ⟨before, x, rest, hxs, hbefore, hx⟩
      cases before with
      | nil =>
        obtain ⟨rfl, rfl⟩ := List.cons.inj hxs
        exact .inl hx
      | cons b before =>
        obtain ⟨rfl, rfl⟩ := List.cons.inj hxs
        obtain ⟨hy, hbefore⟩ := List.forall_mem_cons.mp hbefore
        exact .inr ⟨hy, ih.mpr ⟨before, x, rest, rfl, hbefore, hx⟩⟩

/-! Entries. -/

namespace LevelEntry

/-- The duration's text can be read up to the end of a span that carries. -/
def Overruns (e : LevelEntry) : Prop := DurationText.Overruns (Text.trim e.duration.toList)

theorem lifetime_aborted_iff (e : LevelEntry) : e.lifetime = .error .aborted ↔ e.Overruns := by
  rw [Overruns, ← DurationText.parse_aborted_iff, lifetime]
  cases DurationText.parse (Text.trim e.duration.toList) with
  | error halt => simp
  | ok d => by_cases hzero : d.isZero <;> simp [hzero]

/-- Of an entry only the duration can end everything. -/
theorem level_aborted_iff (e : LevelEntry) : e.level = .error .aborted ↔ e.Overruns := by
  rw [← lifetime_aborted_iff, level]
  cases e.lifetime with
  | error halt => simp
  | ok lifetime =>
    cases Policy.ofName? e.policy with
    | none => simp
    | some policy =>
      cases e.countdown with
      | none => simp
      | some value => cases hvalue : Countdown.ofValue? value <;> simp [hvalue]

theorem levels_eq_mapM (es : List LevelEntry) : levels es = es.mapM level := by
  induction es with
  | nil => rfl
  | cons e es ih =>
    rw [levels, List.mapM_cons, ih]
    cases e.level with
    | error halt => rfl
    | ok l => cases es.mapM level <;> rfl

/-- The first entry of the section that describes no level overruns. -/
def SectionOverruns (entries : List LevelEntry) : Prop :=
  checkTableSize entries.length = .ok () ∧ ∃ before e rest, entries = before ++ e :: rest ∧
    (∀ b ∈ before, ∃ l, b.level = .ok l) ∧ e.Overruns

theorem sectionLevels_aborted_iff (entries : List LevelEntry) :
    sectionLevels entries = .error .aborted ↔ SectionOverruns entries := by
  have hlevels : levels entries = .error .aborted ↔ ∃ before e rest,
      entries = before ++ e :: rest ∧ (∀ b ∈ before, ∃ l, b.level = .ok l) ∧ e.Overruns := by
    simp only [levels_eq_mapM, mapM_eq_error_iff, level_aborted_iff]
  rw [SectionOverruns, ← hlevels, sectionLevels]
  cases checkTableSize entries.length with
  | error f => simp
  | ok u => cases levels entries <;> simp

end LevelEntry

/-! Documents. -/

namespace Document

/-- All tables in the order in which they are checked: that of the default, then the sections. -/
def tables (d : Document) : List (String × List LevelEntry) :=
  (Frontend.defaultName, d.defaults) :: NameTable.ofList d.sections

def tableLevels (t : String × List LevelEntry) : Except (Halt ConfigFault) (String × List Level) :=
  (namedLevels t.1 t.2).map (t.1, ·)

theorem allLevels_eq_mapM (ts : List (String × List LevelEntry)) :
    allLevels ts = ts.mapM tableLevels := by
  induction ts with
  | nil => rfl
  | cons t ts ih =>
    obtain ⟨name, entries⟩ := t
    rw [allLevels, List.mapM_cons, ih, tableLevels]
    cases namedLevels name entries with
    | error halt => rfl
    | ok levels => cases ts.mapM tableLevels <;> rfl

theorem tableLevels_eq_ok_iff (t : String × List LevelEntry) :
    (∃ named, tableLevels t = .ok named) ↔ ∃ levels, LevelEntry.sectionLevels t.2 = .ok levels := by
  rw [tableLevels, namedLevels]
  cases LevelEntry.sectionLevels t.2 <;> simp [Except.map]

theorem tableLevels_eq_error_iff (t : String × List LevelEntry) (halt : Halt ConfigFault) :
    tableLevels t = .error halt ↔
      ∃ halt', LevelEntry.sectionLevels t.2 = .error halt' ∧ halt'.map (.frontend t.1) = halt := by
  rw [tableLevels, namedLevels]
  cases LevelEntry.sectionLevels t.2 <;> simp [Except.map]

/-- A document fails with its secret, or else with the first of its tables that fails. -/
theorem config_eq_error_iff (d : Document) (outside : Option String) (halt : Halt ConfigFault) :
    d.config outside = .error halt ↔
      (∃ f, d.chosenSecret outside = .error f ∧ .refused f = halt) ∨
      (∃ secret, d.chosenSecret outside = .ok secret) ∧ ∃ before t rest,
        d.tables = before ++ t :: rest ∧
        (∀ b ∈ before, ∃ levels, LevelEntry.sectionLevels b.2 = .ok levels) ∧
        ∃ halt', LevelEntry.sectionLevels t.2 = .error halt' ∧ halt'.map (.frontend t.1) = halt := by
  have hall : allLevels d.tables = .error halt ↔ ∃ before t rest, d.tables = before ++ t :: rest ∧
      (∀ b ∈ before, ∃ levels, LevelEntry.sectionLevels b.2 = .ok levels) ∧
      ∃ halt', LevelEntry.sectionLevels t.2 = .error halt' ∧ halt'.map (.frontend t.1) = halt := by
    simp only [allLevels_eq_mapM, mapM_eq_error_iff, tableLevels_eq_ok_iff, tableLevels_eq_error_iff]
  rw [← hall]
  rw [config, tables, allLevels]
  cases d.chosenSecret outside with
  | error f => simp
  | ok secret =>
    cases namedLevels Frontend.defaultName d.defaults with
    | error halt => simp
    | ok levels => cases allLevels (NameTable.ofList d.sections) <;> simp

/-- The check of the document comes to a duration that overruns. -/
def Overruns (d : Document) (outside : Option String) : Prop :=
  (∃ secret, d.chosenSecret outside = .ok secret) ∧ ∃ before t rest,
    d.tables = before ++ t :: rest ∧
    (∀ b ∈ before, ∃ levels, LevelEntry.sectionLevels b.2 = .ok levels) ∧
    LevelEntry.SectionOverruns t.2

theorem config_aborted_iff (d : Document) (outside : Option String) :
    d.config outside = .error .aborted ↔ d.Overruns outside := by
  simp only [config_eq_error_iff, Overruns, ← LevelEntry.sectionLevels_aborted_iff,
    Halt.map_eq_aborted_iff, exists_eq_right, reduceCtorEq, and_false, exists_false, false_or]

end Document

namespace Config

theorem parse_aborted_iff (text : String) (outside : Option String) :
    parse text outside = .error .aborted ↔
      ∃ d, Document.ofText? text = some d ∧ d.Overruns outside := by
  rw [parse]
  cases Document.ofText? text with
  | none => simp
  | some d => simp [Document.config_aborted_iff]

/-- **A text is loaded or refused** unless its check comes to a duration that overruns, and so is
every single entry. Only a sum of exactly 2^64 seconds overruns. -/
theorem loaded_or_refused_iff (text : String) (outside : Option String) (e : LevelEntry) :
    ((∃ c, parse text outside = .ok c) ∨ (∃ fault, parse text outside = .error (.refused fault)) ↔
      ∀ d, Document.ofText? text = some d → ¬d.Overruns outside) ∧
    ((∃ l, e.level = .ok l) ∨ (∃ fault, e.level = .error (.refused fault)) ↔ ¬e.Overruns) ∧
    (e.Overruns → DurationText.FillsUp (Text.trim e.duration.toList)) := by
  refine ⟨?_, ?_, DurationText.Overruns.fillsUp⟩
  · rw [told_iff, ne_eq, parse_aborted_iff]
    simp only [not_exists, not_and]
  · rw [told_iff, ne_eq, LevelEntry.level_aborted_iff]

/-- One level for 2^64 - 1 seconds and a thousand milliseconds. -/
def overrunning : String :=
  "secret: KioqKioqKioqKioqKioqKioqKioqKioqKioqKioqKio=\n" ++
  "default:\n" ++
  "  - \x7b duration: \"18446744073709551615s 1000ms\", type: none \x7d\n"

/-- The last second of this duration is carried where nothing checks it. -/
theorem some_text_aborts : ¬∀ (text : String) (outside : Option String),
    (∃ c, parse text outside = .ok c) ∨ ∃ fault, parse text outside = .error (.refused fault) := by
  intro h
  have habort : parse overrunning none = .error .aborted := ends_iff.mp (by decide +kernel)
  exact told_iff.mp (h overrunning none) habort

end Config
end Passage
