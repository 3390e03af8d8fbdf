import Passage.Proofs.Quads
import Passage.Proofs.Routing
import Passage.Proofs.TextOrder
import Passage.Secret

/- Secrets and their texts.

   1. Every text has one core, what is left without the white space at its ends, and trimming
      finds it (`Text.stripped_iff`).
   2. The base64 of bytes is a text of letters of one byte, none of them blank
      (`Base64.ofText_text`, `Base64.stripped_text`).
   3. A text is a secret exactly if its core spells 32 bytes. A core that spells another number
      of bytes is told this number, and all other cores are no base64
      (`Secret.one_text_per_key`). -/
namespace Passage

namespace Text

def Blank (s : String) : Prop := ∀ c ∈ s.toList, isBlank c

-- Only the letters of the text are looked at, not all there are.
instance (s : String) : Decidable (Blank s) := List.decidableBAll (isBlank ·) s.toList

/-- The core is what is left of a text without the white space at its ends. -/
structure Stripped (s core : String) : Prop where
  around : ∃ before after, s = before ++ core ++ after ∧ Blank before ∧ Blank after
  head : ∀ c ∈ core.toList.head?, isBlank c = false
  last : ∀ c ∈ core.toList.getLast?, isBlank c = false

theorem trimStart_append {before : List Char} (h : ∀ c ∈ before, isBlank c) (cs : List Char) :
    trimStart (before ++ cs) = trimStart cs :=
  List.dropWhile_append_of_pos h

theorem trimEnd_append (cs : List Char) {after : List Char} (h : ∀ c ∈ after, isBlank c) :
    trimEnd (cs ++ after) = trimEnd cs := by
  rw [trimEnd, List.reverse_append, List.dropWhile_append_of_pos (by simpa using h), trimEnd]

theorem trimStart_of_head {cs : List Char} (h : ∀ c ∈ cs.head?, isBlank c = false) :
    trimStart cs = cs := by
  cases cs with
  | nil => rfl
  | cons c cs => simp [trimStart, h c rfl]

theorem trimEnd_of_last {cs : List Char} (h : ∀ c ∈ cs.getLast?, isBlank c = false) :
    trimEnd cs = cs := by
  have hreverse : trimStart cs.reverse = cs.reverse :=
    trimStart_of_head (by simpa [List.head?_reverse] using h)
  rw [trimStart] at hreverse
  rw [trimEnd, hreverse, List.reverse_reverse]

theorem exists_trimEnd (cs : List Char) :
    ∃ after, cs = trimEnd cs ++ after ∧ ∀ c ∈ after, isBlank c := by
  refine ⟨(cs.reverse.takeWhile isBlank).reverse, ?_, ?_⟩
  · rw [trimEnd, ← List.reverse_append, List.takeWhile_append_dropWhile, List.reverse_reverse]
  · intro c hc
    exact List.all_eq_true.mp List.all_takeWhile c (List.mem_reverse.mp hc)

theorem head_trimStart (cs : List Char) : ∀ c ∈ (trimStart cs).head?, isBlank c = false := by
  intro c hc
  have hfirst := List.head?_dropWhile_not isBlank cs
  rw [trimStart, Option.mem_def] at hc
  rw [hc] at hfirst
  simpa using hfirst

theorem last_trimEnd (cs : List Char) : ∀ c ∈ (trimEnd cs).getLast?, isBlank c = false := by
  rw [trimEnd, List.getLast?_reverse]
  exact head_trimStart cs.reverse

theorem stripped_trim (s : String) : Stripped s (String.ofList (trim s.toList)) := by
  obtain ⟨after, hafter, hblank⟩ := exists_trimEnd (trimStart s.toList)
  have hsplit : s.toList.takeWhile isBlank ++ trimStart s.toList = s.toList :=
    List.takeWhile_append_dropWhile
  refine ⟨⟨String.ofList (s.toList.takeWhile isBlank), String.ofList after, ?_, ?_, ?_⟩, ?_, ?_⟩
  · apply String.toList_inj.mp
    simp only [String.toList_append, String.toList_ofList, trim, List.append_assoc]
    rw [← hafter, hsplit]
  · intro c hc
    rw [String.toList_ofList] at hc
    exact List.all_eq_true.mp List.all_takeWhile c hc
  · simpa [Blank] using hblank
  · intro c hc
    rw [String.toList_ofList, trim, Option.mem_def] at hc
    apply head_trimStart s.toList
    rw [hafter, List.head?_append, hc]
    rfl
  · rw [String.toList_ofList]
    exact last_trimEnd (trimStart s.toList)

/-- Every text has one core. -/
theorem stripped_iff {s core : String} :
    Stripped s core ↔ core = String.ofList (trim s.toList) := by
  constructor
  · rintro ⟨⟨before, after, rfl, hbefore, hafter⟩, hhead, hlast⟩
    apply String.toList_inj.mp
    rw [String.toList_ofList, String.toList_append, String.toList_append, trim,
      List.append_assoc, trimStart_append hbefore]
    cases hcore : core.toList with
    | nil =>
      have hnil : trimStart (after.toList ++ []) = [] := trimStart_append hafter []
      rw [List.append_nil] at hnil
      rw [List.nil_append, hnil]
      rfl
    | cons c cs =>
      rw [hcore] at hhead hlast
      rw [trimStart_of_head (by simpa using hhead), trimEnd_append _ hafter, trimEnd_of_last hlast]
  · rintro rfl
    exact stripped_trim s

end Text

namespace Base64

def text (bs : Bytes) : String := String.ofList ((encode bs).map fun c => Char.ofNat c.toNat)

theorem letter_of_mem_encode {bs : Bytes} {c : UInt8} (h : c ∈ encode bs) :
    (∃ v < 64, symbol v = c) ∨ c = pad := by
  obtain ⟨symbols, zeros, pads, hmem, -, -, htext, -, -⟩ := spells_encode bs
  rw [htext, List.mem_append] at h
  rcases h with h | h
  · exact .inl (mem_alphabet_iff.mp (hmem c h))
  · exact .inr (List.eq_of_mem_replicate h)

theorem utf8_of_mem_encode {bs : Bytes} {c : UInt8} (h : c ∈ encode bs) :
    String.utf8EncodeChar (Char.ofNat c.toNat) = [c] ∧
      Text.isBlank (Char.ofNat c.toNat) = false := by
  have hsymbols : ∀ v < 64, String.utf8EncodeChar (Char.ofNat (symbol v).toNat) = [symbol v] ∧
      Text.isBlank (Char.ofNat (symbol v).toNat) = false := by decide +kernel
  rcases letter_of_mem_encode h with ⟨v, hv, rfl⟩ | rfl
  · exact hsymbols v hv
  · decide +kernel

theorem ofText_text (bs : Bytes) : Bytes.ofText (text bs) = encode bs := by
  rw [text, Bytes.ofText_eq_flatMap, String.toList_ofList, List.flatMap_map]
  calc (encode bs).flatMap (fun c => String.utf8EncodeChar (Char.ofNat c.toNat))
      = (encode bs).flatMap (fun c => [c]) := by
        rw [List.flatMap_def, List.flatMap_def]
        congr 1
        exact List.map_congr_left fun c hc => (utf8_of_mem_encode hc).1
    _ = encode bs := List.flatMap_singleton' _

/-- White space around the text of bytes leaves this text as the core. -/
theorem stripped_text (bs : Bytes) {before after : String} (hbefore : Text.Blank before)
    (hafter : Text.Blank after) : Text.Stripped (before ++ text bs ++ after) (text bs) := by
  have hletters : ∀ c ∈ (text bs).toList, Text.isBlank c = false := by
    intro c hc
    rw [text, String.toList_ofList] at hc
    obtain ⟨b, hb, rfl⟩ := List.mem_map.mp hc
    exact (utf8_of_mem_encode hb).2
  exact ⟨⟨before, after, rfl, hbefore, hafter⟩, fun c hc => hletters c (List.mem_of_mem_head? hc),
    fun c hc => hletters c (List.mem_of_mem_getLast? hc)⟩

end Base64

namespace Secret

/-- What becomes of a text, by its core. -/
structure ReadBy (s core : String) : Prop where
  ok_iff : ∀ key, ofBase64 s = .ok key ↔ Base64.Spells (Bytes.ofText core) key.bytes
  wrongLength_iff : ∀ n, ofBase64 s = .error (.wrongLength n) ↔
    n ≠ 32 ∧ ∃ bs, bs.length = n ∧ Base64.Spells (Bytes.ofText core) bs
  encoding_iff : (∃ fault, ofBase64 s = .error (.encoding fault)) ↔
    ∀ bs, ¬Base64.Spells (Bytes.ofText core) bs

theorem ofBytes_eq_ok_iff {bs : Bytes} {key : Secret} : ofBytes bs = .ok key ↔ bs = key.bytes := by
  rw [ofBytes]
  constructor
  · intro h
    split at h
    · cases h
      rfl
    · cases h
  · rintro rfl
    rw [dif_pos key.size_eq]

theorem ofBytes_eq_error_iff {bs : Bytes} {fault : Fault} :
    ofBytes bs = .error fault ↔ bs.length ≠ 32 ∧ fault = .wrongLength bs.length := by
  rw [ofBytes]
  by_cases h : bs.length = 32
  · simp [h]
  · simp [h, eq_comm]

theorem readBy_core {s core : String} (h : Text.Stripped s core) : ReadBy s core := by
  have hcore := Text.stripped_iff.mp h
  have hread : ∀ bs, Base64.decode (Bytes.ofText core) = .ok bs ↔
      Base64.Spells (Bytes.ofText core) bs := fun bs =>
    Base64.decode_eq_ok_iff.trans Base64.spells_iff.symm
  cases hdecode : Base64.decode (Bytes.ofText core) with
  | error fault =>
    have hs : ofBase64 s = .error (.encoding fault) := by rw [ofBase64, ← hcore, hdecode]
    have hnone : ∀ bs, ¬Base64.Spells (Bytes.ofText core) bs := by
      intro bs hbs
      rw [← hread, hdecode] at hbs
      cases hbs
    exact ⟨by simp [hs, hnone], by simp [hs, hnone], by simp [hs, hnone]⟩
  | ok bs =>
    have hs : ofBase64 s = ofBytes bs := by rw [ofBase64, ← hcore, hdecode]
    have hone : ∀ bs', Base64.Spells (Bytes.ofText core) bs' ↔ bs = bs' := by
      intro bs'
      rw [← hread, hdecode, Except.ok.injEq]
    refine ⟨fun key => ?_, fun n => ?_, ?_⟩
    · rw [hs, hone, ofBytes_eq_ok_iff]
    · simp only [hs, ofBytes_eq_error_iff, hone, Fault.wrongLength.injEq, exists_eq_right']
      constructor
      · rintro ⟨hsize, rfl⟩
        exact ⟨hsize, rfl⟩
      · rintro ⟨hsize, rfl⟩
        exact ⟨hsize, rfl⟩
    · simp [hs, ofBytes_eq_error_iff, hone]

/-- **A key has one text.** A text has one core between its white space, and is loaded exactly if
this spells 32 bytes; so all texts of a key have one core. A core that spells more or fewer bytes
is told how many, beside the 32 that are expected, and every other one is no base64. The written
form of a key gives it back, in any white space. -/
theorem one_text_per_key :
    (∀ s, ∃ core, (∀ other, Text.Stripped s other ↔ other = core) ∧ ReadBy s core) ∧
      (∀ s t core key, ofBase64 s = .ok key → Text.Stripped s core →
        (ofBase64 t = .ok key ↔ Text.Stripped t core)) ∧
      (∀ bs, Base64.Spells (Bytes.ofText (Base64.text bs)) bs) ∧
      (∀ n, (Fault.wrongLength n).message =
        s!"Invalid secret length: expected 32 bytes, got {n}") ∧
      ∀ (key : Secret) (before after : String), Text.Blank before → Text.Blank after →
        ofBase64 (before ++ Base64.text key.bytes ++ after) = .ok key := by
  have hwritten : ∀ bs, Base64.Spells (Bytes.ofText (Base64.text bs)) bs := fun bs => by
    rw [Base64.ofText_text]
    exact Base64.spells_encode bs
  refine ⟨fun s => ?_, fun s t core key hs hcore => ?_, hwritten, fun _ => rfl,
    fun key before after hb ha => ?_⟩
  · exact ⟨_, fun other => Text.stripped_iff, readBy_core (Text.stripped_trim s)⟩
  · have hspells := ((readBy_core hcore).ok_iff key).mp hs
    constructor
    · intro ht
      have hother := ((readBy_core (Text.stripped_trim t)).ok_iff key).mp ht
      -- Both cores spell the key, and one text at most does.
      exact Text.stripped_iff.mpr (Bytes.ofText_inj.mp (hspells.unique hother))
    · exact fun ht => ((readBy_core ht).ok_iff key).mpr hspells
  · exact ((readBy_core (Base64.stripped_text key.bytes hb ha)).ok_iff key).mpr (hwritten key.bytes)

namespace Sample

def stars : Secret := ⟨List.replicate 32 42, rfl⟩

end Sample

/-- The stars are loaded from between an ideographic space, a tab and a line end, and from nothing
else than their text in white space. -/
theorem stars_loaded :
    ofBase64 ("\u3000\t" ++ "KioqKioqKioqKioqKioqKioqKioqKioqKioqKioqKio=" ++ "\r\n") =
        .ok Sample.stars ∧
      ∀ t, ofBase64 t = .ok Sample.stars ↔
        Text.Stripped t "KioqKioqKioqKioqKioqKioqKioqKioqKioqKioqKio=" := by
  have htext : Base64.text Sample.stars.bytes = "KioqKioqKioqKioqKioqKioqKioqKioqKioqKioqKio=" := by
    decide +kernel
  have hbefore : Text.Blank "\u3000\t" := by decide
  have hafter : Text.Blank "\r\n" := by decide
  obtain ⟨-, hone, -, -, hload⟩ := one_text_per_key
  have hstars := hload Sample.stars _ _ hbefore hafter
  have hcore := Base64.stripped_text Sample.stars.bytes hbefore hafter
  rw [htext] at hstars hcore
  exact ⟨hstars, fun t => hone _ t _ _ hstars hcore⟩

end Secret
end Passage
