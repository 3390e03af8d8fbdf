import Passage.Config
import Passage.Proofs.Answers
import Passage.Proofs.Messages

/- What an instance answers, told without engines.

   A frontend is to its callers a name and a table, its `card`; what it tells is a value
   of the secret, the table, the clock and the call (`Frontend.verdict`,
   `Frontend.reply`).

   1. A frontend whose engine is ready tells that value, and is ready and of the same card
      after (`Ready.validate`, `Ready.challenge`).
   2. An instance whose frontends are all ready with one secret stays one, and no call
      changes which card a name leads to (`Leads`, `Sound.apply`, `Sound.run`). So after
      any calls it answers by the cards that it had at first (`Sound.validate`,
      `Sound.challenge`).
   3. An instance of new frontends is sound, and so are all that a configuration builds
      (`Config.newOf_buildInstance`). -/
namespace Passage

namespace Fields

theorem identity_ok {fields : Fields} {id : Identity} (h : fields.identity = .ok id) :
    ∃ address, Address.ofOctets? fields.source = some address ∧ fields.host.length ≤ maxHost ∧
      id = ⟨address, fields.host, fields.level⟩ := by
  rw [identity] at h
  cases ha : Address.ofOctets? fields.source with
  | none =>
    rw [ha] at h
    cases h
  | some address =>
    simp only [ha] at h
    split at h
    · cases h
    · next hlong => exact ⟨address, rfl, Nat.le_of_not_gt hlong, (Except.ok.inj h).symm⟩

theorem level_identity {fields : Fields} {id : Identity} (h : fields.identity = .ok id) :
    id.level = fields.level := by
  obtain ⟨address, -, -, rfl⟩ := identity_ok h
  rfl

/-- What is wrong with the client, its address before the host. -/
def fault? (fields : Fields) : Option FieldFault :=
  if fields.source.length ≠ 4 ∧ fields.source.length ≠ 16 then
    some (.invalidAddress fields.source.length)
  else if maxHost < fields.host.length then some (.hostTooLong fields.host.length)
  else none

theorem identity_of_fault {fields : Fields} {fault : FieldFault} (h : fields.fault? = some fault) :
    fields.identity = .error fault := by
  have hlengths := Address.ofOctets?_eq_none_iff fields.source
  rw [fault?] at h
  rw [identity]
  cases ha : Address.ofOctets? fields.source with
  | none =>
    rw [if_pos (hlengths.mp ha)] at h
    exact congrArg Except.error (Option.some.inj h)
  | some address =>
    rw [if_neg (mt hlengths.mpr (ha ▸ Option.some_ne_none address))] at h
    split at h
    · next hlong => exact (if_pos hlong).trans (congrArg Except.error (Option.some.inj h))
    · cases h

theorem identity_of_usable {fields : Fields} (h : fields.fault? = none) :
    ∃ address, Address.ofOctets? fields.source = some address ∧
      fields.identity = .ok ⟨address, fields.host, fields.level⟩ := by
  have hlengths := Address.ofOctets?_eq_none_iff fields.source
  rw [fault?] at h
  rw [identity]
  cases ha : Address.ofOctets? fields.source with
  | none =>
    rw [if_pos (hlengths.mp ha)] at h
    cases h
  | some address =>
    rw [if_neg (mt hlengths.mpr (ha ▸ Option.some_ne_none address))] at h
    split at h
    · cases h
    · next hshort => exact ⟨address, rfl, if_neg hshort⟩

/-- One host, and one address in either of its forms. -/
def SameClient (a b : Fields) : Prop :=
  a.host = b.host ∧
    (Address.ofOctets? a.source).map Address.octets = (Address.ofOctets? b.source).map Address.octets

/-- Where one client's fields are usable, so are all others of it, at every level. -/
theorem SameClient.identity {a b : Fields} (h : a.SameClient b) {id : Identity}
    (hid : b.identity = .ok id) : ∃ id', a.identity = .ok id' ∧ id'.host = id.host ∧
      id'.address.octets = id.address.octets ∧ id'.level = a.level := by
  obtain ⟨hhost, hsource⟩ := h
  obtain ⟨address, hb, hshort, rfl⟩ := identity_ok hid
  rw [hb, Option.map_some] at hsource
  obtain ⟨address', ha, hoctets⟩ := Option.map_eq_some_iff.mp hsource
  have hshort' : ¬a.host.length > maxHost := by rw [hhost]; exact Nat.not_lt.mpr hshort
  refine ⟨⟨address', a.host, a.level⟩, ?_, hhost, hoctets, rfl⟩
  rw [Fields.identity]
  simp only [ha, if_neg hshort']

end Fields

namespace Engine.Ready
variable {secret : Secret} {levels : LevelTable} {e : Engine}

theorem lends (h : e.Ready secret levels) : e.bench.responses.acquire.1 = .blank ∧
    Ready secret levels
      { e with bench := { e.bench with responses := e.bench.responses.acquire.2 } } := by
  obtain ⟨hlent, hpool⟩ := h.responses.acquire
  exact ⟨hlent, { h with responses := hpool }⟩

theorem takesBack (h : e.Ready secret levels) {response : Response} (hr : response.Sound) :
    Ready secret levels
      { e with bench := { e.bench with responses := e.bench.responses.release response } } :=
  { h with responses := h.responses.release hr.reset_eq }

end Engine.Ready

def Answer.ofRun (policy : Policy) (outcome : Outcome) (response : Response) : Answer :=
  let token := response.token.readable
  ⟨policy, response.body.readable, if token.isEmpty then none else some token, outcome⟩

namespace Frontend

/-- What a frontend is to its callers: a name and a table. -/
def card (f : Frontend) : String × LevelTable := (f.name, f.engine.levels)

/-- The engine is ready with this secret and the frontend's own table. -/
def Ready (secret : Secret) (f : Frontend) : Prop := f.engine.Ready secret f.engine.levels

/-- What a token check tells. -/
def verdict (secret : Secret) (clock : Clock) (fields : Fields) (cookie : Bytes) :
    Except FieldFault Verdict :=
  if fields.level = 0 then .ok .disabled
  else
    match fields.identity with
    | .error fault => .error fault
    | .ok id => .ok (.ofOutcome (firstUnmet (Token.requirements secret.bytes clock.now id cookie)))

/-- What a policy run tells. -/
def reply (secret : Secret) (levels : LevelTable) (clock : Clock) (fields : Fields)
    (method body : Bytes) : Except FieldFault (Option Answer) :=
  if fields.level = 0 then .ok none
  else
    match fields.identity with
    | .error fault => .error fault
    | .ok id =>
      match Method.ofBytes method with
      | .other => .error .unsupportedMethod
      | method =>
        let run := Engine.answer secret levels clock ⟨method, body, id⟩
        .ok (some (.ofRun (levels.entry fields.level).policy run.1 run.2))

/-- A call tells `answer` and leaves a ready frontend of the same card. -/
def Tells (secret : Secret) (f : Frontend) {α : Type} (call : α × Frontend) (answer : α) : Prop :=
  ∃ f', call = (answer, f') ∧ f'.card = f.card ∧ f'.Ready secret

namespace Ready
variable {secret : Secret} {f : Frontend}

theorem tells_same (h : f.Ready secret) {α : Type} (answer : α) : Tells secret f (answer, f) answer :=
  ⟨f, rfl, rfl, h⟩

/-- An engine that is ready with the frontend's table can take the place of its own. -/
theorem tells_with {e : Engine} (h : e.Ready secret f.engine.levels) {α : Type} (answer : α) :
    Tells secret f (answer, { f with engine := e }) answer := by
  refine ⟨_, rfl, congrArg (Prod.mk f.name) h.levels_eq, ?_⟩
  rw [Ready]
  exact h.levels_eq ▸ h

theorem validate (h : f.Ready secret) (clock : Clock) (fields : Fields) (cookie : Bytes) :
    Tells secret f (f.validate clock fields cookie) (verdict secret clock fields cookie) := by
  rw [Frontend.validate, verdict]
  by_cases hzero : fields.level = 0
  · rw [if_pos hzero, if_pos hzero]
    exact h.tells_same _
  rw [if_neg hzero, if_neg hzero]
  cases hid : fields.identity with
  | error fault => exact h.tells_same _
  | ok id =>
    obtain ⟨e, hverify, he⟩ := Engine.Ready.verify h clock id cookie
    simp only [hverify]
    exact tells_with he _

theorem challenge (h : f.Ready secret) (clock : Clock) (fields : Fields) (method body : Bytes) :
    Tells secret f (f.challenge clock fields method body)
      (reply secret f.engine.levels clock fields method body) := by
  rw [Frontend.challenge, reply]
  by_cases hzero : fields.level = 0
  · rw [if_pos hzero, if_pos hzero]
    exact h.tells_same _
  rw [if_neg hzero, if_neg hzero]
  cases hid : fields.identity with
  | error fault => exact h.tells_same _
  | ok id =>
    obtain ⟨hresponse, hready⟩ := Engine.Ready.lends h
    have hrun := fun m => hready.run clock ⟨m, body, id⟩ Response.sound_blank
    cases Method.ofBytes method with
    | other => exact h.tells_same _
    | get =>
      obtain ⟨e, hanswer, he⟩ := hrun .get
      simp only [hresponse, hanswer]
      exact tells_with (he.takesBack (Engine.sound_answer ..)) _
    | post =>
      obtain ⟨e, hanswer, he⟩ := hrun .post
      simp only [hresponse, hanswer]
      exact tells_with (he.takesBack (Engine.sound_answer ..)) _

end Ready
end Frontend

namespace Instance

def frontends (i : Instance) : List Frontend := i.fallback :: i.named

theorem route_of_named {i : Instance} {target : Bytes} {f : Frontend} (h : i.named? target = some f) :
    i.route target = f := by
  rw [route, h, Option.getD_some]

theorem route_of_unnamed {i : Instance} {target : Bytes} (h : i.named? target = none) :
    i.route target = i.fallback := by
  rw [route, h, Option.getD_none]

theorem named?_some {i : Instance} {target : Bytes} {f : Frontend} (h : i.named? target = some f) :
    f ∈ i.named ∧ Bytes.text? target = some f.name := by
  rw [named?] at h
  cases ht : Bytes.text? target with
  | none =>
    rw [ht] at h
    cases h
  | some name =>
    simp only [ht] at h
    have hname : f.name = name := by simpa using List.find?_some h
    exact ⟨List.mem_of_find?_eq_some h, congrArg some hname.symm⟩

theorem route_mem (i : Instance) (target : Bytes) : i.route target ∈ i.frontends := by
  cases hn : i.named? target with
  | none =>
    rw [route_of_unnamed hn]
    exact List.mem_cons_self
  | some f =>
    rw [route_of_named hn]
    exact List.mem_cons_of_mem _ (named?_some hn).1

/-! Putting a frontend back. -/

theorem mem_putBack {i : Instance} {target : Bytes} {f g : Frontend}
    (hg : g ∈ (i.putBack target f).frontends) : g = f ∨ g ∈ i.frontends := by
  rw [putBack] at hg
  cases hn : i.named? target with
  | none =>
    rw [hn] at hg
    rcases List.mem_cons.mp hg with rfl | hg
    · exact .inl rfl
    · exact .inr (List.mem_cons_of_mem _ hg)
  | some h =>
    rw [hn] at hg
    rcases List.mem_cons.mp hg with rfl | hg
    · exact .inr List.mem_cons_self
    · obtain ⟨g', hg', rfl⟩ := List.mem_map.mp hg
      by_cases hname : g'.name = f.name
      · exact .inl (if_pos hname)
      · rw [if_neg hname]
        exact .inr (List.mem_cons_of_mem _ hg')

theorem named?_putBack {i : Instance} {target : Bytes} {f g : Frontend}
    (hg : i.named? target = some g) (other : Bytes) :
    (i.putBack target f).named? other =
      (i.named? other).map fun g => if g.name = f.name then f else g := by
  rw [putBack, hg, named?, named?]
  cases Bytes.text? other with
  | none => rfl
  | some name =>
    simp only [List.find?_map]
    congr 2
    funext h
    show decide ((if h.name = f.name then f else h).name = name) = decide (h.name = name)
    split
    · next heq => rw [heq]
    · rfl

/-- No name leads to another card, once a frontend is put back in the place it was taken from. -/
theorem card_putBack {i : Instance} {target : Bytes} {f : Frontend}
    (h : f.card = (i.route target).card) (other : Bytes) :
    ((i.putBack target f).route other).card = (i.route other).card := by
  cases hn : i.named? target with
  | none =>
    rw [route_of_unnamed hn] at h
    have hput : i.putBack target f = { i with fallback := f } := by rw [putBack, hn]
    have hnamed : (i.putBack target f).named? other = i.named? other := by rw [hput]; rfl
    cases ho : i.named? other with
    | none =>
      rw [route_of_unnamed (hnamed.trans ho), route_of_unnamed ho, hput]
      exact h
    | some g => rw [route_of_named (hnamed.trans ho), route_of_named ho]
  | some g =>
    rw [route_of_named hn] at h
    have hput := named?_putBack (f := f) hn other
    cases ho : i.named? other with
    | none =>
      rw [ho, Option.map_none] at hput
      rw [route_of_unnamed hput, route_of_unnamed ho, putBack, hn]
    | some g' =>
      rw [ho, Option.map_some] at hput
      rw [route_of_named hput, route_of_named ho]
      split
      · next heq =>
        -- Two names that find a frontend of one name are one name.
        have hsame : i.named? other = i.named? target := by
          rw [named?, named?, (named?_some ho).2, (named?_some hn).2, heq]
          exact congrArg (fun name => i.named.find? (·.name = name)) (congrArg Prod.fst h)
        rw [ho, hn] at hsame
        rw [h, Option.some.inj hsame]
      · rfl

/-! Calls. -/

def Sound (secret : Secret) (i : Instance) : Prop := ∀ f ∈ i.frontends, f.Ready secret

/-- The second instance is sound, and every name leads to the card that it leads to in the first. -/
structure Leads (secret : Secret) (i j : Instance) : Prop where
  sound : j.Sound secret
  card : ∀ target, (j.route target).card = (i.route target).card

namespace Leads
variable {secret : Secret} {i j k : Instance}

theorem trans (h : i.Leads secret j) (h' : j.Leads secret k) : i.Leads secret k :=
  ⟨h'.sound, fun target => (h'.card target).trans (h.card target)⟩

theorem record (h : i.Leads secret j) (s : Series) : i.Leads secret (j.record s) :=
  ⟨h.sound, h.card⟩

theorem withClock (h : i.Leads secret j) (clock : Clock) : i.Leads secret { j with clock } :=
  ⟨h.sound, h.card⟩

end Leads

namespace Sound
variable {secret : Secret} {i : Instance}

theorem leads_self (h : i.Sound secret) : i.Leads secret i := ⟨h, fun _ => rfl⟩

theorem route (h : i.Sound secret) (target : Bytes) : (i.route target).Ready secret :=
  h _ (i.route_mem target)

theorem putBack (h : i.Sound secret) {target : Bytes} {f : Frontend} (hf : f.Ready secret)
    (hcard : f.card = (i.route target).card) : i.Leads secret (i.putBack target f) := by
  refine ⟨fun g hg => ?_, card_putBack hcard⟩
  rcases mem_putBack hg with rfl | hg
  · exact hf
  · exact h g hg

theorem validate (h : i.Sound secret) (target : Bytes) (fields : Fields) (cookie : Bytes) :
    ∃ j, i.validate target fields cookie =
        ((Frontend.verdict secret i.clock fields cookie).map ((i.route target).name, ·), j) ∧
      i.Leads secret j := by
  obtain ⟨f, hcall, hcard, hf⟩ := (h.route target).validate i.clock fields cookie
  have hname : f.name = (i.route target).name := congrArg Prod.fst hcard
  have hleads := h.putBack hf hcard
  simp only [Instance.validate, hcall, ← hname]
  cases Frontend.verdict secret i.clock fields cookie with
  | error fault => exact ⟨_, rfl, hleads⟩
  | ok verdict => exact ⟨_, rfl, hleads.record _⟩

theorem challenge (h : i.Sound secret) (target : Bytes) (fields : Fields) (method body : Bytes) :
    ∃ j, i.challenge target fields method body =
        ((Frontend.reply secret (i.route target).engine.levels i.clock fields method body).map
          (·.map ((i.route target).name, ·)), j) ∧
      i.Leads secret j := by
  obtain ⟨f, hcall, hcard, hf⟩ := (h.route target).challenge i.clock fields method body
  have hname : f.name = (i.route target).name := congrArg Prod.fst hcard
  have hleads := h.putBack hf hcard
  simp only [Instance.challenge, hcall, ← hname]
  cases Frontend.reply secret (i.route target).engine.levels i.clock fields method body with
  | error fault => exact ⟨_, rfl, hleads⟩
  | ok answer =>
    cases answer with
    | none => exact ⟨_, rfl, hleads⟩
    | some answer => exact ⟨_, rfl, hleads.record _⟩

/-- Every call leaves a sound instance with the same cards behind the names. -/
theorem apply (h : i.Sound secret) (op : Op) : i.Leads secret (i.apply op).2 := by
  cases op with
  | clock op => exact h.leads_self.withClock _
  | validate target fields cookie =>
    obtain ⟨j, hcall, hleads⟩ := h.validate target fields cookie
    simp only [Instance.apply, hcall]
    exact hleads
  | challenge target fields method body =>
    obtain ⟨j, hcall, hleads⟩ := h.challenge target fields method body
    simp only [Instance.apply, hcall]
    exact hleads

theorem run (h : i.Sound secret) (calls : List Op) : i.Leads secret (i.run calls) := by
  induction calls generalizing i with
  | nil => exact h.leads_self
  | cons op calls ih => exact (h.apply op).trans (ih (h.apply op).sound)

end Sound

/-! Instances of new frontends. -/

/-- All frontends are new, and have one secret. -/
def NewOf (secret : Secret) (i : Instance) : Prop :=
  ∀ f ∈ i.frontends, f.engine = .build secret f.engine.levels

theorem NewOf.sound {secret : Secret} {i : Instance} (h : i.NewOf secret) : i.Sound secret := by
  intro f hf
  rw [Frontend.Ready, h f hf]
  exact Engine.ready_build secret _

theorem newOf_ofFallback (secret : Secret) (name : String) (levels : LevelTable) (clock : Clock) :
    (ofFallback ⟨name, .build secret levels⟩ clock).NewOf secret := by
  intro f hf
  rw [List.mem_singleton.mp hf]
  rfl

theorem NewOf.withFrontend {secret : Secret} {i : Instance} (h : i.NewOf secret) (name : String)
    (levels : LevelTable) : (i.withFrontend ⟨name, .build secret levels⟩).NewOf secret := by
  intro f hf
  rcases List.mem_cons.mp hf with rfl | hf
  · exact h _ List.mem_cons_self
  rcases List.mem_cons.mp hf with rfl | hf
  · rfl
  · exact h f (List.mem_cons_of_mem _ (List.mem_filter.mp hf).1)

end Instance

/-- What a configuration builds has one secret and the clock that it was given. -/
theorem Config.newOf_buildInstance {c : Config} {clock : Clock} {i : Instance}
    (h : c.buildInstance clock = .ok i) : i.NewOf c.secret ∧ i.clock = clock := by
  have hadd : ∀ (tables : List (String × List Level)) (j : Instance), j.NewOf c.secret →
      addFrontends c.secret j tables = .ok i → i.NewOf c.secret ∧ i.clock = j.clock := by
    intro tables
    induction tables with
    | nil =>
      intro j hj hi
      cases hi
      exact ⟨hj, rfl⟩
    | cons table tables ih =>
      intro j hj hi
      obtain ⟨name, levels⟩ := table
      rw [addFrontends] at hi
      split at hi
      · cases hi
      · next table _ =>
        exact ih (j.withFrontend ⟨name, .build c.secret table⟩) (hj.withFrontend name table) hi
  rw [buildInstance] at h
  split at h
  · cases h
  · next table _ =>
    exact hadd c.frontends (.ofFallback ⟨Frontend.defaultName, .build c.secret table⟩ clock)
      (Instance.newOf_ofFallback c.secret Frontend.defaultName table clock) h

end Passage
