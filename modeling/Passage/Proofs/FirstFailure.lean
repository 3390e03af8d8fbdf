import Passage.Proofs.Loading
import Passage.Proofs.NameTables
import Passage.Proofs.TextOrder

/- Which of all that is wrong with a document is told.

   `Document.failures` lists everything that is wrong, in a fixed order: the secret, the
   default table, the named tables in the order of their names, in each table its size and
   then its entries, in each entry the duration, the policy and the countdown. A check
   `Decides` between such a list and a result: it fails with the first failure of the list,
   or there is none and the result is good.

   1. Checks that are made one after the other decide between both lists, the first one's
      failures first (`Decides.bind`), and so does a check of every element of a list
      (`Decides.mapM`).
   2. Each function that checks a part of a document decides between the failures of this
      part and what the part describes (`LevelEntry.decides_level`,
      `LevelEntry.decides_sectionLevels`, `Document.decides_config`).
   3. So a text is loaded if nothing is wrong with its document, and otherwise the first
      failure is told (`Config.first_failure_decides`). -/
namespace Passage

/-- The first failure is told, or there is none and the result is good. -/
def Decides {ε α : Type} (failures : List ε) (good : α → Prop) (x : Except ε α) : Prop :=
  match failures with
  | [] => ∃ a, x = .ok a ∧ good a
  | f :: _ => x = .error f

namespace Decides
variable {ε δ α β : Type} {fs gs : List ε} {good : α → Prop} {better : β → Prop} {x : Except ε α}

theorem ok {a : α} (h : good a) : Decides ([] : List ε) good (.ok a) := ⟨a, rfl, h⟩

theorem fail (f : ε) : Decides [f] good (.error f) := rfl

theorem error_iff (h : Decides fs good x) (f : ε) : x = .error f ↔ fs.head? = some f := by
  cases fs with
  | nil =>
    obtain ⟨a, rfl, -⟩ := h
    simp
  | cons g fs =>
    obtain rfl : x = .error g := h
    simp

theorem ok_iff (h : Decides fs good x) : (∃ a, x = .ok a) ↔ fs = [] := by
  cases fs with
  | nil =>
    obtain ⟨a, rfl, -⟩ := h
    simp
  | cons g fs =>
    obtain rfl : x = .error g := h
    simp

theorem good_of_ok (h : Decides fs good x) {a : α} (hx : x = .ok a) : good a := by
  obtain rfl := h.ok_iff.mp ⟨a, hx⟩
  obtain ⟨b, hb, hgood⟩ := h
  rw [hx] at hb
  cases hb
  exact hgood

/-- Where the first check fails the second one is not made. -/
theorem bind (h : Decides fs good x) {k : α → Except ε β}
    (hk : ∀ a, good a → Decides gs better (k a)) : Decides (fs ++ gs) better (x >>= k) := by
  cases fs with
  | nil =>
    obtain ⟨a, rfl, hgood⟩ := h
    exact hk a hgood
  | cons g fs =>
    obtain rfl : x = .error g := h
    rfl

theorem give (h : Decides fs good x) {f : α → β} (hf : ∀ a, good a → better (f a)) :
    Decides fs better (x >>= fun a => pure (f a)) := by
  rw [← List.append_nil fs]
  exact h.bind fun a hgood => ok (hf a hgood)

theorem mapError (h : Decides fs good x) (f : ε → δ) : Decides (fs.map f) good (x.mapError f) := by
  cases fs with
  | nil =>
    obtain ⟨a, rfl, hgood⟩ := h
    exact ⟨a, rfl, hgood⟩
  | cons g fs =>
    obtain rfl : x = .error g := h
    rfl

theorem mapM {check : α → Except ε β} {failures : α → List ε} {describes : α → β → Prop}
    (h : ∀ a, Decides (failures a) (describes a) (check a)) (as : List α) :
    Decides (as.flatMap failures) (List.Forall₂ describes as) (as.mapM check) := by
  induction as with
  | nil => exact ok .nil
  | cons a as ih =>
    rw [List.mapM_cons, List.flatMap_cons]
    exact (h a).bind fun b hb => ih.give fun bs hbs => .cons hb hbs

end Decides

theorem Halt.aborted_mem_map_iff {ε δ : Type} {f : ε → δ} {halts : List (Halt ε)} :
    .aborted ∈ halts.map (Halt.map f) ↔ .aborted ∈ halts := by
  simp only [List.mem_map, Halt.map_eq_aborted_iff, exists_eq_right]

/-! Entries. -/

namespace LevelEntry

/-- The entry's duration, without the white space around it. -/
def parsed (e : LevelEntry) : Except (Halt DurationText.Fault) Duration :=
  DurationText.parse (Text.trim e.duration.toList)

def durationFailures (e : LevelEntry) : List (Halt EntryFault) :=
  match e.parsed with
  | .error halt => [halt.map fun f => .duration e.duration (.text f)]
  | .ok d => if d.toNanos = 0 then [.refused (.duration e.duration .zero)] else []

def policyFailures (e : LevelEntry) : List (Halt EntryFault) :=
  if e.policy = "none" ∨ e.policy = "pow" then [] else [.refused (.policy e.policy)]

def countdownFailures (e : LevelEntry) : List (Halt EntryFault) :=
  match e.countdown with
  | some n => if 9 < n then [.refused (.countdown n)] else []
  | none => []

def failures (e : LevelEntry) : List (Halt EntryFault) :=
  e.durationFailures ++ e.policyFailures ++ e.countdownFailures

/-- A level is what the entry says. -/
structure Describes (e : LevelEntry) (l : Level) : Prop where
  lifetime : e.parsed = .ok l.lifetime
  policy : l.policy.name = e.policy
  countdown : l.countdown.value = e.countdown.getD 3

theorem decides_lifetime (e : LevelEntry) :
    Decides e.durationFailures (fun d => e.parsed = .ok d) e.lifetime := by
  rw [durationFailures, lifetime, ← parsed]
  cases hparsed : e.parsed with
  | error halt => exact Decides.fail _
  | ok d =>
    have hzero : d.isZero = true ↔ d.toNanos = 0 := by
      simp only [Duration.isZero, Duration.toNanos, billion, Bool.and_eq_true, beq_iff_eq]
      omega
    by_cases h : d.toNanos = 0
    · simp only [if_pos h, if_pos (hzero.mpr h)]
      exact Decides.fail _
    · simp only [if_neg h, if_neg (mt hzero.mp h)]
      exact Decides.ok rfl

def namedPolicy (e : LevelEntry) : Except (Halt EntryFault) Policy :=
  match Policy.ofName? e.policy with
  | none => .error (.refused (.policy e.policy))
  | some policy => .ok policy

/-- The entry's countdown, or the usual one. -/
def chosenCountdown (e : LevelEntry) : Except (Halt EntryFault) Countdown :=
  match e.countdown with
  | none => .ok .default
  | some value =>
    match Countdown.ofValue? value with
    | none => .error (.refused (.countdown value))
    | some countdown => .ok countdown

theorem level_eq (e : LevelEntry) : e.level = (do
    let lifetime ← e.lifetime
    let policy ← e.namedPolicy
    let countdown ← e.chosenCountdown
    return ⟨lifetime, policy, countdown⟩) := by
  rw [level, namedPolicy, chosenCountdown]
  cases e.lifetime with
  | error halt => rfl
  | ok lifetime =>
    cases Policy.ofName? e.policy with
    | none => rfl
    | some policy =>
      cases e.countdown with
      | none => rfl
      | some value => cases hvalue : Countdown.ofValue? value <;> simp only [hvalue] <;> rfl

theorem decides_policy (e : LevelEntry) :
    Decides e.policyFailures (fun p => p.name = e.policy) e.namedPolicy := by
  rw [policyFailures, namedPolicy, Policy.ofName?]
  by_cases hnone : e.policy = "none"
  · simp only [hnone, true_or, if_true]
    exact Decides.ok rfl
  · by_cases hpow : e.policy = "pow"
    · simp only [hpow, or_true, if_true]
      exact Decides.ok rfl
    · simp only [hnone, hpow, or_self, if_false]
      exact Decides.fail _

theorem decides_countdown (e : LevelEntry) :
    Decides e.countdownFailures (fun c => c.value = e.countdown.getD 3) e.chosenCountdown := by
  rw [countdownFailures, chosenCountdown]
  cases e.countdown with
  | none => exact Decides.ok rfl
  | some n =>
    by_cases hn : n ≤ 9
    · simp only [Countdown.ofValue?, dif_pos hn, if_neg (UInt8.not_lt.mpr hn)]
      exact Decides.ok rfl
    · simp only [Countdown.ofValue?, dif_neg hn, if_pos (UInt8.not_le.mp hn)]
      exact Decides.fail _

theorem decides_level (e : LevelEntry) : Decides e.failures e.Describes e.level := by
  rw [level_eq, failures, List.append_assoc]
  refine e.decides_lifetime.bind fun d hd => ?_
  refine e.decides_policy.bind fun p hp => ?_
  exact e.decides_countdown.give fun c hc => ⟨hd, hp, hc⟩

/-! Tables. -/

def sizeFailures (size : Nat) : List (Halt SectionFault) :=
  if size = 0 then [.refused (.table .empty)]
  else if 255 < size then [.refused (.table (.tooLong size))]
  else []

def sectionFailures (entries : List LevelEntry) : List (Halt SectionFault) :=
  sizeFailures entries.length ++ (entries.flatMap failures).map (Halt.map .entry)

theorem sectionLevels_eq (entries : List LevelEntry) : sectionLevels entries = (do
    (checkTableSize entries.length).mapError fun f => .refused (.table f)
    (entries.mapM level).mapError (Halt.map .entry)) := by
  rw [sectionLevels, ← levels_eq_mapM]
  cases checkTableSize entries.length with
  | error f => rfl
  | ok u => cases levels entries <;> rfl

theorem decides_size (size : Nat) : Decides (sizeFailures size) (fun _ => True)
    ((checkTableSize size).mapError fun f => .refused (.table f)) := by
  rw [sizeFailures, checkTableSize]
  by_cases hempty : size = 0
  · simp only [if_pos hempty]
    exact Decides.fail _
  · by_cases hlong : size > maxLevels
    · simp only [if_neg hempty, if_pos hlong]
      exact Decides.fail _
    · simp only [if_neg hempty, if_neg hlong]
      exact Decides.ok trivial

/-- Nothing but the reading of a duration ends everything. -/
theorem aborted_mem_failures_iff (e : LevelEntry) :
    .aborted ∈ e.failures ↔ e.parsed = .error .aborted := by
  have hpolicy : .aborted ∉ e.policyFailures := by
    rw [policyFailures]
    split <;> simp
  have hcountdown : .aborted ∉ e.countdownFailures := by
    rw [countdownFailures]
    split
    · split <;> simp
    · simp
  rw [failures, List.mem_append, List.mem_append, or_iff_left hcountdown, or_iff_left hpolicy,
    durationFailures]
  cases e.parsed with
  | error halt =>
    rw [List.mem_singleton, eq_comm, Halt.map_eq_aborted_iff, Except.error.injEq]
  | ok d => by_cases hzero : d.toNanos = 0 <;> simp [hzero]

theorem aborted_mem_sectionFailures_iff (entries : List LevelEntry) :
    .aborted ∈ sectionFailures entries ↔ ∃ e ∈ entries, e.parsed = .error .aborted := by
  have hsize : .aborted ∉ sizeFailures entries.length := by
    rw [sizeFailures]
    split
    · simp
    · split <;> simp
  rw [sectionFailures, List.mem_append, or_iff_right hsize, Halt.aborted_mem_map_iff,
    List.mem_flatMap]
  simp only [aborted_mem_failures_iff]

theorem decides_sectionLevels (entries : List LevelEntry) :
    Decides (sectionFailures entries) (List.Forall₂ Describes entries) (sectionLevels entries) := by
  rw [sectionLevels_eq, sectionFailures]
  exact (decides_size entries.length).bind fun _ _ =>
    (Decides.mapM decides_level entries).mapError _

end LevelEntry

/-! Documents. -/

namespace Document

def secretFailures : Option String → List ConfigFault
  | none => [.missingSecret]
  | some text =>
    match Base64.decode (Bytes.ofText (String.ofList (Text.trim text.toList))) with
    | .error fault => [.secret (.encoding fault)]
    | .ok bs => if bs.length = 32 then [] else [.secret (.wrongLength bs.length)]

/-- All that is wrong with a table, with its name. -/
def tableFailures (t : String × List LevelEntry) : List (Halt ConfigFault) :=
  (LevelEntry.sectionFailures t.2).map (Halt.map (.frontend t.1))

/-- All that is wrong with a document. -/
def failures (d : Document) (outside : Option String) : List (Halt ConfigFault) :=
  (secretFailures (outside.or d.secret)).map .refused ++ d.tables.flatMap tableFailures

/-- The levels under a name are what the entries under it say. -/
structure TableDescribes (t : String × List LevelEntry) (levels : String × List Level) : Prop where
  name : levels.1 = t.1
  levels : List.Forall₂ LevelEntry.Describes t.2 levels.2

/-- A configuration is what the document says. -/
structure Describes (d : Document) (outside : Option String) (c : Config) : Prop where
  secret : ∃ text, outside.or d.secret = some text ∧
    Base64.decode (Bytes.ofText (String.ofList (Text.trim text.toList))) = .ok c.secret.bytes
  levels : List.Forall₂ LevelEntry.Describes d.defaults c.levels
  frontends : List.Forall₂ TableDescribes (NameTable.ofList d.sections) c.frontends
  listen : c.listen = d.listen

theorem decides_secret (d : Document) (outside : Option String) :
    Decides (secretFailures (outside.or d.secret))
      (fun secret => ∃ text, outside.or d.secret = some text ∧
        Base64.decode (Bytes.ofText (String.ofList (Text.trim text.toList))) = .ok secret.bytes)
      (d.chosenSecret outside) := by
  rw [chosenSecret]
  cases outside.or d.secret with
  | none => exact Decides.fail _
  | some text =>
    simp only [secretFailures, Secret.ofBase64]
    cases hdecode : Base64.decode (Bytes.ofText (String.ofList (Text.trim text.toList))) with
    | error fault => exact Decides.fail _
    | ok bs =>
      by_cases hsize : bs.length = 32
      · simp only [Secret.ofBytes, dif_pos hsize, if_pos hsize]
        exact Decides.ok ⟨text, rfl, hdecode⟩
      · simp only [Secret.ofBytes, dif_neg hsize, if_neg hsize]
        exact Decides.fail _

theorem decides_table (t : String × List LevelEntry) :
    Decides (tableFailures t) (TableDescribes t) (tableLevels t) := by
  have hlevels : tableLevels t = (do
      let levels ← (LevelEntry.sectionLevels t.2).mapError (Halt.map (.frontend t.1))
      return (t.1, levels)) := by
    rw [tableLevels, namedLevels]
    cases LevelEntry.sectionLevels t.2 <;> rfl
  rw [hlevels]
  exact ((LevelEntry.decides_sectionLevels t.2).mapError _).give fun _ h => ⟨rfl, h⟩

theorem config_eq (d : Document) (outside : Option String) : d.config outside = (do
    let secret ← (d.chosenSecret outside).mapError Halt.refused
    let default ← tableLevels (Frontend.defaultName, d.defaults)
    let frontends ← (NameTable.ofList d.sections).mapM tableLevels
    return ⟨secret, default.2, frontends, d.listen⟩) := by
  rw [config, ← allLevels_eq_mapM, tableLevels]
  cases d.chosenSecret outside with
  | error f => rfl
  | ok secret =>
    cases namedLevels Frontend.defaultName d.defaults with
    | error halt => rfl
    | ok levels => cases allLevels (NameTable.ofList d.sections) <;> rfl

theorem decides_config (d : Document) (outside : Option String) :
    Decides (d.failures outside) (d.Describes outside) (d.config outside) := by
  -- The checks follow each other as their lists of failures do.
  rw [config_eq, failures, tables, List.flatMap_cons]
  refine ((d.decides_secret outside).mapError _).bind fun secret hsecret => ?_
  refine (decides_table _).bind fun default hdefault => ?_
  exact (Decides.mapM decides_table _).give fun frontends hfrontends =>
    ⟨hsecret, hdefault.levels, hfrontends, rfl⟩

theorem aborted_mem_failures_iff (d : Document) (outside : Option String) :
    .aborted ∈ d.failures outside ↔ ∃ t ∈ d.tables, ∃ e ∈ t.2, e.parsed = .error .aborted := by
  have htable : ∀ t, .aborted ∈ tableFailures t ↔ ∃ e ∈ t.2, e.parsed = .error .aborted := by
    intro t
    rw [tableFailures, Halt.aborted_mem_map_iff, LevelEntry.aborted_mem_sectionFailures_iff]
  simp only [failures, List.mem_append, List.mem_map, reduceCtorEq, and_false, exists_false,
    false_or, List.mem_flatMap, htable]

/-- The default table comes first and then one table for each name, in the order of the bytes of
the names. Of sections with one name the last one counts. -/
structure Ordered (d : Document) (tables : List (String × List LevelEntry)) : Prop where
  head : tables.head? = some (Frontend.defaultName, d.defaults)
  sorted : tables.tail.Pairwise fun s t => Bytes.ofText s.1 < Bytes.ofText t.1
  mem_iff : ∀ name entries, (name, entries) ∈ tables.tail ↔
    d.sections.reverse.find? (·.1 = name) = some (name, entries)

theorem ordered_tables (d : Document) : d.Ordered d.tables where
  head := rfl
  sorted := (NameTable.sorted_ofList d.sections).imp Bytes.ofText_lt_iff.mpr
  mem_iff _ _ := NameTable.mem_ofList d.sections

end Document

namespace Config

/-- **The first failure decides.** A text whose document has no failure is loaded as the document
says, and of one that has some the first is told. Tables are looked at in the order of their names,
and nothing but the reading of a duration can end everything. A secret from outside makes the
document's own one irrelevant. -/
theorem first_failure_decides (text : String) (outside : Option String) (d : Document)
    (h : Document.ofText? text = some d) :
    (∀ halt, parse text outside = .error halt ↔ (d.failures outside).head? = some halt) ∧
      ((∃ c, parse text outside = .ok c) ↔ d.failures outside = []) ∧
      (∀ c, parse text outside = .ok c → d.Describes outside c) ∧
      d.Ordered d.tables ∧
      (.aborted ∈ d.failures outside ↔ ∃ t ∈ d.tables, ∃ e ∈ t.2, e.parsed = .error .aborted) ∧
      ∀ (chosen : String) (secret : Option String) (text' : String),
        Document.ofText? text' = some { d with secret } →
          parse text' (some chosen) = parse text (some chosen) := by
  have hparse : ∀ outside, parse text outside = d.config outside := fun outside => by rw [parse, h]
  have hdecides := d.decides_config outside
  rw [← hparse] at hdecides
  refine ⟨hdecides.error_iff, hdecides.ok_iff, fun c => hdecides.good_of_ok, d.ordered_tables,
    d.aborted_mem_failures_iff outside, fun chosen secret text' h' => ?_⟩
  rw [hparse, parse, h']
  rfl

/-- A document with five faults in two sections. Its own secret decodes to none, and the first of
the sections `a` does not count. -/
def faulty : String :=
  "secret: rubbish\n" ++
  "default: [\x7bduration: 1m, type: none\x7d]\n" ++
  "frontend:\n" ++
  "  b: []\n" ++
  "  a: [\x7bduration: 1x, type: none\x7d]\n" ++
  "  a: [\x7bduration: 0s, type: captcha, countdown: 12\x7d, \x7bduration: 1m, type: dns\x7d]\n"

def faultyRead : Document :=
  ⟨some "rubbish", [⟨"1m", "none", none⟩],
    [("b", []), ("a", [⟨"1x", "none", none⟩]), ("a", [⟨"0s", "captcha", some 12⟩, ⟨"1m", "dns", none⟩])],
    none⟩

theorem ofText_faulty : Document.ofText? faulty = some faultyRead := by decide +kernel

/-- Of five faults the first one in the section that comes first by its name is told. -/
theorem first_of_five : Document.ofText? faulty = some faultyRead ∧
    (faultyRead.failures (some "KioqKioqKioqKioqKioqKioqKioqKioqKioqKioqKio=")).length = 5 ∧
    parse faulty (some "KioqKioqKioqKioqKioqKioqKioqKioqKioqKioqKio=") =
      .error (.refused (.frontend "a" (.entry (.duration "0s" .zero)))) := by
  refine ⟨ofText_faulty, by decide +kernel, ?_⟩
  exact ((first_failure_decides faulty _ faultyRead ofText_faulty).1 _).mpr (by decide +kernel)

end Config
end Passage
