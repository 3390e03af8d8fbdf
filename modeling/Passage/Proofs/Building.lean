import Passage.Proofs.NameTables
import Passage.Proofs.Routing
import Passage.Proofs.Sessions

/- What becomes of a configuration that was accepted.

   Tables are checked twice, when a document is read and when engines are built.

   1. The first check is as strict as the second one: what a section's entries describe is
      a table, and it is in order (`LevelEntry.table_of_sectionLevels`,
      `LevelEntry.inOrder_of_sectionLevels`). A `Section` keeps entries and table together.
   2. An accepted configuration is a list of sections (`Document.config_ok`), and all of
      them become frontends (`Config.addFrontends_sections`).
   3. A name leads to the last section of the document that is written under exactly this
      name, and else to the default (`Section.route_build`). -/
namespace Passage

namespace LevelTable

theorem ofList_levels (t : LevelTable) : ofList t.levels = .ok t := by
  rw [ofList, dif_neg t.nonempty, dif_pos t.size_le]

/-- There are 1 to 255 levels, each of which counts for some time and shows a digit. -/
def InOrder (t : LevelTable) : Prop :=
  1 ≤ t.levels.length ∧ t.levels.length ≤ 255 ∧
    ∀ l ∈ t.levels, 0 < l.lifetime.toNanos ∧ l.countdown.value ≤ 9

end LevelTable

namespace LevelEntry

theorem lifetime_pos {e : LevelEntry} {d : Duration} (h : e.lifetime = .ok d) : 0 < d.toNanos := by
  rw [lifetime] at h
  split at h
  · cases h
  · next d' _ =>
    split at h
    · cases h
    · next hzero =>
      cases h
      simp only [Duration.isZero, Bool.and_eq_true, beq_iff_eq] at hzero
      unfold Duration.toNanos billion
      omega

theorem lifetime_of_level {e : LevelEntry} {l : Level} (h : e.level = .ok l) :
    e.lifetime = .ok l.lifetime := by
  rw [level] at h
  split at h
  · cases h
  · next lifetime hlifetime =>
    rw [hlifetime]
    split at h
    · cases h
    · split at h
      · cases h
        rfl
      · split at h
        · cases h
        · cases h
          rfl

/-- There are as many levels as entries, and each of them has one that describes it. -/
theorem levels_ok {entries : List LevelEntry} {ls : List Level} (h : levels entries = .ok ls) :
    ls.length = entries.length ∧ ∀ l ∈ ls, ∃ e ∈ entries, e.level = .ok l := by
  induction entries generalizing ls with
  | nil =>
    cases h
    exact ⟨rfl, List.forall_mem_nil _⟩
  | cons e entries ih =>
    rw [levels] at h
    split at h
    · cases h
    · next l hl =>
      split at h
      · cases h
      · next rest hrest =>
        cases h
        obtain ⟨hlength, hrest⟩ := ih hrest
        refine ⟨congrArg Nat.succ hlength, List.forall_mem_cons.mpr ⟨⟨e, List.mem_cons_self, hl⟩, ?_⟩⟩
        intro l' hl'
        obtain ⟨e', he', hlevel⟩ := hrest l' hl'
        exact ⟨e', List.mem_cons_of_mem e he', hlevel⟩

theorem sectionLevels_ok {entries : List LevelEntry} {ls : List Level}
    (h : sectionLevels entries = .ok ls) :
    checkTableSize entries.length = .ok () ∧ levels entries = .ok ls := by
  rw [sectionLevels] at h
  split at h
  · cases h
  · next hsize =>
    split at h
    · cases h
    · next ls' hlevels =>
      cases h
      exact ⟨hsize, hlevels⟩

theorem table_of_sectionLevels {entries : List LevelEntry} {ls : List Level}
    (h : sectionLevels entries = .ok ls) : ∃ table : LevelTable, table.levels = ls := by
  obtain ⟨hsize, hlevels⟩ := sectionLevels_ok h
  have hlength := (levels_ok hlevels).1
  rw [checkTableSize] at hsize
  split at hsize
  · cases hsize
  · next hempty =>
    split at hsize
    · cases hsize
    · next hlong =>
      have hne : ls ≠ [] := fun hnil => hempty (by rw [← hlength, hnil]; rfl)
      exact ⟨⟨ls, hne, hlength ▸ Nat.le_of_not_gt hlong⟩, rfl⟩

theorem inOrder_of_sectionLevels {entries : List LevelEntry} {table : LevelTable}
    (h : sectionLevels entries = .ok table.levels) : table.InOrder := by
  refine ⟨List.length_pos_iff.mpr table.nonempty, table.size_le, fun l hl => ?_⟩
  obtain ⟨e, -, hlevel⟩ := (levels_ok (sectionLevels_ok h).2).2 l hl
  exact ⟨lifetime_pos (lifetime_of_level hlevel), l.countdown.value_le⟩

end LevelEntry

/-- Entries under a name, with the table that they describe. -/
structure Section where
  name : String
  entries : List LevelEntry
  table : LevelTable
  described : LevelEntry.sectionLevels entries = .ok table.levels

namespace Section

def written (s : Section) : String × List LevelEntry := (s.name, s.entries)

def checked (s : Section) : String × List Level := (s.name, s.table.levels)

def frontend (secret : Secret) (s : Section) : Frontend := ⟨s.name, .build secret s.table⟩

theorem of_sectionLevels (name : String) {entries : List LevelEntry} {ls : List Level}
    (h : LevelEntry.sectionLevels entries = .ok ls) :
    ∃ s : Section, s.written = (name, entries) ∧ s.checked = (name, ls) := by
  obtain ⟨table, rfl⟩ := LevelEntry.table_of_sectionLevels h
  exact ⟨⟨name, entries, table, h⟩, rfl, rfl⟩

end Section

/-! Documents. -/

namespace Document

theorem namedLevels_ok {name : String} {entries : List LevelEntry} {ls : List Level}
    (h : namedLevels name entries = .ok ls) : LevelEntry.sectionLevels entries = .ok ls := by
  rw [namedLevels] at h
  split at h
  · cases h
  · next ls' hlevels =>
    cases h
    exact hlevels

theorem allLevels_ok {tables : List (String × List LevelEntry)} {ts : List (String × List Level)}
    (h : allLevels tables = .ok ts) :
    ∃ ss : List Section, tables = ss.map Section.written ∧ ts = ss.map Section.checked := by
  induction tables generalizing ts with
  | nil =>
    cases h
    exact ⟨[], rfl, rfl⟩
  | cons t tables ih =>
    obtain ⟨name, entries⟩ := t
    rw [allLevels] at h
    split at h
    · cases h
    · next ls hls =>
      split at h
      · cases h
      · next rest hrest =>
        cases h
        obtain ⟨s, hwritten, hchecked⟩ := Section.of_sectionLevels name (namedLevels_ok hls)
        obtain ⟨ss, htables, hts⟩ := ih hrest
        exact ⟨s :: ss, by rw [List.map_cons, hwritten, htables], by rw [List.map_cons, hchecked, hts]⟩

/-- What is accepted consists of sections, that of the default and those with a name. -/
theorem config_ok {d : Document} {outside : Option String} {c : Config}
    (h : d.config outside = .ok c) :
    d.chosenSecret outside = .ok c.secret ∧
      ∃ (base : Section) (ss : List Section),
        base.written = (Frontend.defaultName, d.defaults) ∧ base.table.levels = c.levels ∧
        NameTable.ofList d.sections = ss.map Section.written ∧
        c.frontends = ss.map Section.checked := by
  rw [config] at h
  split at h
  · cases h
  · next secret hsecret =>
    split at h
    · cases h
    · next ls hls =>
      split at h
      · cases h
      · next ts hts =>
        cases h
        obtain ⟨base, hwritten, hchecked⟩ :=
          Section.of_sectionLevels Frontend.defaultName (namedLevels_ok hls)
        obtain ⟨ss, hsections, hfrontends⟩ := allLevels_ok hts
        exact ⟨hsecret, base, ss, hwritten, congrArg Prod.snd hchecked, hsections, hfrontends⟩

/-- The entries for a name: those of the last section that is written under exactly this name, or
else the default ones. -/
def entriesFor (d : Document) (target : Bytes) : List LevelEntry :=
  match d.sections.reverse.find? (Bytes.ofText ·.1 = target) with
  | some (_, entries) => entries
  | none => d.defaults

theorem entriesFor_of_mem {d : Document} {name : String} {entries : List LevelEntry}
    (h : (name, entries) ∈ NameTable.ofList d.sections) :
    d.entriesFor (Bytes.ofText name) = entries := by
  have hlast := (NameTable.mem_ofList d.sections).mp h
  simp only [entriesFor, Bytes.ofText_inj, hlast]

theorem entriesFor_of_not_mem {d : Document} {target : Bytes}
    (h : ∀ name ∈ (NameTable.ofList d.sections).map Prod.fst, Bytes.ofText name ≠ target) :
    d.entriesFor target = d.defaults := by
  have hnone : d.sections.reverse.find? (Bytes.ofText ·.1 = target) = none := by
    refine List.find?_eq_none.mpr fun s hs => ?_
    rw [decide_eq_true_eq]
    have hname := List.mem_map_of_mem (f := Prod.fst) (List.mem_reverse.mp hs)
    exact h _ ((NameTable.mem_names_ofList d.sections).mpr hname)
  rw [entriesFor, hnone]

end Document

/-! Instances. -/

namespace Section
variable (secret : Secret) (clock : Clock) (base : Section) (ss : List Section)

/-- The instance of a default section and some others. -/
def build : Instance :=
  (Instance.ofFallback (base.frontend secret) clock).withFrontends (ss.map (frontend secret))

theorem of_mem_build {f : Frontend} (h : f ∈ (build secret clock base ss).frontends) :
    ∃ s : Section, f = s.frontend secret := by
  rcases Instance.mem_frontends_withFrontends h with h | h
  · obtain ⟨s, -, rfl⟩ := List.mem_map.mp h
    exact ⟨s, rfl⟩
  · exact ⟨base, List.mem_singleton.mp h⟩

theorem newOf_build : (build secret clock base ss).NewOf secret := by
  intro f hf
  obtain ⟨s, rfl⟩ := of_mem_build secret clock base ss hf
  rfl

/-- A name leads to the section that the document has for it. -/
theorem route_build {d : Document} (hbase : base.entries = d.defaults)
    (hss : NameTable.ofList d.sections = ss.map written) (target : Bytes) :
    ∃ s : Section, s.entries = d.entriesFor target ∧
      (build secret clock base ss).route target = s.frontend secret := by
  have hroute : (build secret clock base ss).route target =
      ((ss.reverse.find? (Bytes.ofText ·.name = target)).map (frontend secret)).getD
        (base.frontend secret) := by
    rw [build, Instance.route_withFrontends, ← List.map_reverse, List.find?_map]
    rfl
  cases hfind : ss.reverse.find? (Bytes.ofText ·.name = target) with
  | some s =>
    have hname : Bytes.ofText s.name = target := by simpa using List.find?_some hfind
    have hs : s ∈ ss := List.mem_reverse.mp (List.mem_of_find?_eq_some hfind)
    refine ⟨s, ?_, by rw [hroute, hfind]; rfl⟩
    rw [← hname]
    exact (Document.entriesFor_of_mem (hss ▸ List.mem_map_of_mem (f := written) hs)).symm
  | none =>
    refine ⟨base, ?_, by rw [hroute, hfind]; rfl⟩
    -- The names of the document are those of the sections, and no section is found.
    rw [hbase, Document.entriesFor_of_not_mem]
    intro name hname htarget
    rw [hss, List.map_map] at hname
    obtain ⟨s, hs, rfl⟩ := List.mem_map.mp hname
    exact List.find?_eq_none.mp hfind s (List.mem_reverse.mpr hs) (decide_eq_true htarget)

theorem size_build {d : Document} (hss : NameTable.ofList d.sections = ss.map written) :
    (build secret clock base ss).size = 1 + (d.sections.map Prod.fst).dedup.length := by
  have hnames : (ss.map (frontend secret)).map Frontend.name =
      (NameTable.ofList d.sections).map Prod.fst := by
    rw [hss, List.map_map, List.map_map]
    rfl
  have hsame := length_dedup_congr fun name =>
    hnames ▸ NameTable.mem_names_ofList (n := name) d.sections
  rw [build, Instance.size_withFrontends, hsame]

end Section

namespace Config

/-- Tables that were checked are all taken. -/
theorem addFrontends_sections (secret : Secret) (i : Instance) (ss : List Section) :
    addFrontends secret i (ss.map Section.checked) =
      .ok (i.withFrontends (ss.map (Section.frontend secret))) := by
  induction ss generalizing i with
  | nil => rfl
  | cons s ss ih =>
    rw [List.map_cons, Section.checked, addFrontends, LevelTable.ofList_levels]
    exact ih _

theorem buildInstance_sections {c : Config} {base : Section} {ss : List Section}
    (hname : base.name = Frontend.defaultName) (hlevels : base.table.levels = c.levels)
    (hss : c.frontends = ss.map Section.checked) (clock : Clock) :
    c.buildInstance clock = .ok (Section.build c.secret clock base ss) := by
  rw [buildInstance, ← hlevels, LevelTable.ofList_levels, ← hname, hss]
  exact addFrontends_sections ..

/-- **What is accepted builds, and its names lead where they should.** For every clock there is an
instance of one frontend for each name that the document has a section for, and one for the rest.
All are new and have the chosen secret and a table in order. After any calls each name, whatever its
bytes, leads to an engine with the table that the document has for it. -/
theorem builds_and_routes (text : String) (outside : Option String) (c : Config) (clock : Clock)
    (h : parse text outside = .ok c) :
    ∃ d i, Document.ofText? text = some d ∧ d.chosenSecret outside = .ok c.secret ∧
      c.buildInstance clock = .ok i ∧ i.clock = clock ∧
      i.size = 1 + (d.sections.map Prod.fst).dedup.length ∧
      (∀ f ∈ i.frontends, f.engine = .build c.secret f.engine.levels ∧ f.engine.levels.InOrder) ∧
      ∀ calls target, ((i.run calls).route target).Ready c.secret ∧
        LevelEntry.sectionLevels (d.entriesFor target) =
          .ok ((i.run calls).route target).engine.levels.levels := by
  rw [parse] at h
  split at h
  · cases h
  · next d hd =>
    obtain ⟨hsecret, base, ss, hwritten, hlevels, hss, hfrontends⟩ := Document.config_ok h
    have hnew := Section.newOf_build c.secret clock base ss
    refine ⟨d, Section.build c.secret clock base ss, hd, hsecret,
      buildInstance_sections (congrArg Prod.fst hwritten) hlevels hfrontends clock,
      (Instance.withFrontends_rest ..).2, Section.size_build c.secret clock base ss hss, ?_, ?_⟩
    · intro f hf
      obtain ⟨s, rfl⟩ := Section.of_mem_build c.secret clock base ss hf
      exact ⟨rfl, LevelEntry.inOrder_of_sectionLevels s.described⟩
    · intro calls target
      have hleads := hnew.sound.run calls
      obtain ⟨s, hentries, hroute⟩ :=
        Section.route_build c.secret clock base ss (congrArg Prod.snd hwritten) hss target
      have htable : ((Instance.run _ calls).route target).engine.levels = s.table :=
        congrArg Prod.snd ((hleads.card target).trans (congrArg Frontend.card hroute))
      refine ⟨hleads.sound.route target, ?_⟩
      rw [← hentries, htable]
      exact s.described

/-- A section that has the default's name, and two of one name. -/
def sections : String :=
  "secret: KioqKioqKioqKioqKioqKioqKioqKioqKioqKioqKio=\n" ++
  "default: [\x7bduration: 1m, type: none\x7d]\n" ++
  "frontend:\n" ++
  "  shop: [\x7bduration: 1m, type: none\x7d]\n" ++
  "  default: [\x7bduration: 2m, type: pow\x7d]\n" ++
  "  shop: [\x7bduration: 3m, type: pow\x7d]\n"

def sectionsRead : Document :=
  ⟨some "KioqKioqKioqKioqKioqKioqKioqKioqKioqKioqKio=", [⟨"1m", "none", none⟩],
    [("shop", [⟨"1m", "none", none⟩]), ("default", [⟨"2m", "pow", none⟩]),
      ("shop", [⟨"3m", "pow", none⟩])], none⟩

theorem ofText_sections : Document.ofText? sections = some sectionsRead := by decide +kernel

/-- Three frontends: the section named default is not the default, the later shop counts, and a name
that is no text gets the default. -/
theorem sections_route : ∃ c i, parse sections none = .ok c ∧
    c.buildInstance Engine.Session.Sample.clock = .ok i ∧ i.size = 3 ∧
    (i.route (Bytes.ofText "default")).engine.levels.levels.map (·.lifetime.seconds) = [120] ∧
    (i.route (Bytes.ofText "shop")).engine.levels.levels.map (·.lifetime.seconds) = [180] ∧
    (i.route [0xff]).engine.levels.levels.map (·.lifetime.seconds) = [60] := by
  have hread : parse sections none = sectionsRead.config none := by rw [parse, ofText_sections]
  have hok : (sectionsRead.config none).toOption.isSome := by decide +kernel
  cases hc : sectionsRead.config none with
  | error halt =>
    rw [hc] at hok
    cases hok
  | ok c =>
    obtain ⟨d, i, hd, -, hi, -, hsize, -, hroute⟩ :=
      builds_and_routes sections none c Engine.Session.Sample.clock (hread.trans hc)
    obtain rfl : sectionsRead = d := Option.some.inj (ofText_sections.symm.trans hd)
    have hseconds : ∀ (target : Bytes) (seconds : List Nat),
        (LevelEntry.sectionLevels (sectionsRead.entriesFor target)).toOption.map
          (List.map (·.lifetime.seconds)) = some seconds →
        (i.route target).engine.levels.levels.map (·.lifetime.seconds) = seconds := by
      intro target seconds h
      rw [(hroute [] target).2] at h
      exact Option.some.inj h
    refine ⟨c, i, hread.trans hc, hi, hsize.trans (by decide +kernel), ?_, ?_, ?_⟩
    · exact hseconds (Bytes.ofText "default") [120] (by decide +kernel)
    · exact hseconds (Bytes.ofText "shop") [180] (by decide +kernel)
    · exact hseconds [0xff] [60] (by decide +kernel)

end Config
end Passage
