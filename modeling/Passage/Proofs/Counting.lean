import Mathlib.Data.List.Infix
import Passage.Proofs.Instances
import Passage.Proofs.Sessions

/- What the counters of an instance have counted.

   1. A counter adds one for each event whose series it finds in the same place
      (`Metrics.count_record`, `Metrics.count_foldl`).
   2. No outcome label ends another one, nor does one with the name of its policy in
      front. So the labels of a series can be read off the text that its counter finds it
      by (`Series.eq_of_values`), and only the fingerprints of different texts can bring
      two of them together.
   3. One call counts the series that its answer tells, or nothing, and no name leads to
      another frontend or table after it (`Instance.steps_apply`). This asks nothing of
      the engines.
   4. So after any calls the counters have taken up one series for each call that is
      counted (`Instance.metrics_run`), and the calls of a series are those that belong to
      it (`Instance.count_counted`). -/
namespace Passage

namespace Series

theorem meets_iff {s t : Series} :
    s.meets t = true ↔ s.name = t.name ∧ s.fingerprint = t.fingerprint := by
  simp [meets]

/-- Series that are counted together are counted together with the same ones. -/
theorem meets_congr {s t : Series} (h : s.meets t = true) (u : Series) : s.meets u = t.meets u := by
  obtain ⟨hname, hprint⟩ := meets_iff.mp h
  rw [meets, meets, hname, hprint]

theorem meets_comm (s t : Series) : s.meets t = t.meets s := by
  rw [meets, meets]
  simp only [eq_comm]

end Series

namespace Metrics

theorem count_cons (t : Series) (n : Nat) (rest : List (Series × Nat)) (s : Series) :
    (Metrics.mk ((t, n) :: rest)).count s = if t.meets s then n else (Metrics.mk rest).count s := by
  rw [count, List.find?_cons]
  cases t.meets s <;> rfl

theorem count_record (m : Metrics) (s t : Series) :
    (m.record s).count t = m.count t + if s.meets t then 1 else 0 := by
  obtain ⟨counts⟩ := m
  induction counts with
  | nil =>
    rw [record, bump, count_cons]
    cases s.meets t <;> rfl
  | cons entry rest ih =>
    obtain ⟨u, n⟩ := entry
    rw [record, bump, count_cons u n rest t]
    by_cases hus : u.meets s = true
    · rw [if_pos hus, count_cons, Series.meets_congr hus t]
      split <;> rfl
    · rw [if_neg hus, count_cons]
      split
      · next hut =>
        -- The entry of `t` stays as it is, for `s` is counted in another one.
        have hst : ¬s.meets t = true := fun hst => by
          rw [Series.meets_comm, Series.meets_congr hst, Series.meets_comm] at hus
          exact hus hut
        rw [if_neg hst]
        rfl
      · exact ih

theorem count_foldl (events : List Series) (m : Metrics) (t : Series) :
    (events.foldl record m).count t = m.count t + events.countP (·.meets t) := by
  induction events generalizing m with
  | nil => rfl
  | cons s events ih =>
    rw [List.foldl_cons, ih, count_record, List.countP_cons]
    omega

end Metrics

/-! Label texts. -/

/-- Behind any two texts it can be told which of some texts they end in, if none of these ends
another one. -/
theorem append_inj_of_suffixFree {α : Type} (text : α → String) {all : List α}
    (hfree : ∀ a ∈ all, ∀ b ∈ all, (text a).toList <:+ (text b).toList → a = b) {x y : String}
    {a b : α} (ha : a ∈ all) (hb : b ∈ all) (h : x ++ text a = y ++ text b) : x = y ∧ a = b := by
  have hlists : x.toList ++ (text a).toList = y.toList ++ (text b).toList := by
    rw [← String.toList_append, ← String.toList_append, h]
  have hab : a = b := by
    rcases List.suffix_or_suffix_of_suffix (List.suffix_append x.toList (text a).toList)
      (hlists ▸ List.suffix_append y.toList (text b).toList) with hends | hends
    · exact hfree a ha b hb hends
    · exact (hfree b hb a ha hends).symm
  subst hab
  exact ⟨String.toList_inj.mp (List.append_cancel_right hlists), rfl⟩

def Verdict.all : List Verdict := .disabled :: .valid :: Rejection.all.map .invalid

/-- All that a policy run can find, under each policy. -/
def Policy.runs : List (Policy × Outcome) :=
  [none, proofOfWork].flatMap fun policy =>
    (policy, .ok ()) :: Rejection.all.map fun cause => (policy, .error cause)

theorem Verdict.mem_all (v : Verdict) : v ∈ all := by
  cases v with
  | disabled => decide
  | valid => decide
  | invalid cause => cases cause <;> decide

theorem Policy.mem_runs (run : Policy × Outcome) : run ∈ runs := by
  obtain ⟨policy, outcome⟩ := run
  cases outcome with
  | ok passed => cases passed; cases policy <;> decide
  | error cause => cases policy <;> cases cause <;> decide

namespace Series

def Known : Series → Prop
  | validation _ outcome => ∃ v : Verdict, v.label = outcome
  | challenge _ _ outcome => ∃ o : Outcome, outcomeLabel o = outcome

/-- The labels of a series can be read off its text. -/
theorem eq_of_values {s t : Series} (hs : s.Known) (ht : t.Known) (hname : s.name = t.name)
    (h : s.values = t.values) : s = t := by
  cases s with
  | validation f o =>
    cases t with
    | challenge f' p' o' => exact absurd hname (by simp [name])
    | validation f' o' =>
      obtain ⟨v, rfl⟩ := hs
      obtain ⟨v', rfl⟩ := ht
      obtain ⟨rfl, rfl⟩ := append_inj_of_suffixFree Verdict.label
        (by decide +kernel) v.mem_all v'.mem_all h
      rfl
  | challenge f p o =>
    cases t with
    | validation f' o' => exact absurd hname (by simp [name])
    | challenge f' p' o' =>
      obtain ⟨r, rfl⟩ := hs
      obtain ⟨r', rfl⟩ := ht
      rw [values, values, String.append_assoc, String.append_assoc] at h
      obtain ⟨rfl, hrun⟩ := append_inj_of_suffixFree
        (fun run : Policy × Outcome => run.1.name ++ outcomeLabel run.2)
        (by decide +kernel) (Policy.mem_runs (p, r)) (Policy.mem_runs (p', r')) h
      obtain ⟨rfl, rfl⟩ := Prod.mk.inj hrun
      rfl

end Series
/-! What a call leaves as it was. -/

namespace Engine

theorem levels_verify (e : Engine) (clock : Clock) (id : Identity) (token : Bytes) :
    (e.verify clock id token).2.levels = e.levels := by
  rw [verify]
  split
  · rfl
  · split <;> rfl

theorem levels_checkSolution (e : Engine) (clock : Clock) (id : Identity) (body : Bytes) :
    (e.checkSolution clock id body).2.levels = e.levels := by
  rw [checkSolution]
  split
  · rfl
  split
  · rfl
  · next s _ =>
    -- A borrowed signature and its digits leave the table as it is.
    have hspelled : ∀ {text e'}, (e.sign [id.material, s.nonce]).2.spell
        (e.sign [id.material, s.nonce]).1 = (text, e') → e'.levels = e.levels :=
      fun h => (congrArg (·.2.levels) h).symm
    simp only
    split
    · next h => exact hspelled h
    · next h =>
      have hlevels := hspelled h
      split
      · exact hlevels
      split
      · exact hlevels
      split
      · exact hlevels
      split
      · exact hlevels
      · exact hlevels

theorem levels_pass (e : Engine) (clock : Clock) (id : Identity) (level : Level)
    (response : Response) : (e.pass clock id level response).2.2.levels = e.levels := by
  rw [pass]
  split <;> rfl

theorem levels_run (e : Engine) (clock : Clock) (request : Request) (response : Response) :
    (e.run clock request response).2.2.levels = e.levels := by
  rw [run]
  simp only
  split
  · exact levels_pass ..
  · rfl
  · have hcheck := e.levels_checkSolution clock request.identity request.body
    generalize e.checkSolution clock request.identity request.body = checked at hcheck ⊢
    obtain ⟨outcome, e'⟩ := checked
    cases outcome with
    | error cause => exact hcheck
    | ok _ => exact hcheck
  · rfl

end Engine

/-! What an answer is counted under. -/

def checkLabel (level : UInt8) (verdict : Verdict) : String :=
  if level = 0 then "disabled"
  else
    match verdict with
    | .disabled | .valid => "ok"
    | .invalid cause => cause.code

def runLabel : Outcome → String
  | .ok () => "ok"
  | .error cause => cause.code

theorem outcomeLabel_eq (outcome : Outcome) : outcomeLabel outcome = runLabel outcome := by
  cases outcome <;> rfl

theorem label_ofOutcome {level : UInt8} (h : level ≠ 0) (outcome : Outcome) :
    (Verdict.ofOutcome outcome).label = checkLabel level (.ofOutcome outcome) := by
  unfold checkLabel
  rw [if_neg h]
  cases outcome <;> rfl

namespace Frontend
variable (f : Frontend) (clock : Clock) (fields : Fields)

theorem card_validate (cookie : Bytes) : (f.validate clock fields cookie).2.card = f.card := by
  rw [validate]
  split
  · rfl
  split
  · rfl
  · next id _ => exact congrArg (Prod.mk f.name) (f.engine.levels_verify clock id cookie)

theorem label_validate {cookie : Bytes} {v : Verdict}
    (h : (f.validate clock fields cookie).1 = .ok v) : v.label = checkLabel fields.level v := by
  rw [validate] at h
  split at h
  · next hzero =>
    cases h
    exact (if_pos hzero).symm
  · next hzero =>
    split at h
    · cases h
    · next id _ =>
      rw [← Except.ok.inj h]
      exact label_ofOutcome hzero _

theorem card_challenge (method body : Bytes) :
    (f.challenge clock fields method body).2.card = f.card := by
  rw [challenge]
  split
  · rfl
  split
  · rfl
  · cases Method.ofBytes method with
    | other => rfl
    | get => exact congrArg (Prod.mk f.name) (Engine.levels_run ..)
    | post => exact congrArg (Prod.mk f.name) (Engine.levels_run ..)

theorem policy_challenge {method body : Bytes} {a : Answer}
    (h : (f.challenge clock fields method body).1 = .ok (some a)) :
    a.policy = (f.engine.levels.entry fields.level).policy := by
  rw [challenge] at h
  split at h
  · cases h
  split at h
  · cases h
  · cases hm : Method.ofBytes method with
    | other =>
      rw [hm] at h
      cases h
    | get =>
      rw [hm] at h
      cases h
      rfl
    | post =>
      rw [hm] at h
      cases h
      rfl

end Frontend

/-! Calls and runs. -/

namespace Instance

def Reply.series : Reply → Option Series
  | .validated (.ok (name, verdict)) => some (.validation name verdict.label)
  | .challenged (.ok (some (name, a))) =>
    some (.challenge name a.policy (outcomeLabel a.outcome))
  | _ => none

/-- Whether a call with its answer belongs to a series: a token check by the frontend of this name
with this outcome, or a policy run by it under this policy, for the level that its table gives,
with this outcome. -/
def belongs (i : Instance) : Series → Op × Reply → Bool
  | .validation name label, (.validate target fields _, .validated (.ok (_, verdict))) =>
    (i.route target).name = name && checkLabel fields.level verdict = label
  | .challenge name policy label, (.challenge target fields _ _, .challenged (.ok (some (_, a)))) =>
    (i.route target).name = name &&
      ((i.route target).engine.levels.entry fields.level).policy = policy &&
      runLabel a.outcome = label
  | _, _ => false

/-- What one call does to the counters, and what it leaves as it was. -/
structure Steps (i : Instance) (op : Op) (reply : Reply) (j : Instance) : Prop where
  metrics : j.metrics = i.metrics.map fun m => reply.series.toList.foldl .record m
  card : ∀ target, (j.route target).card = (i.route target).card
  belongs : ∀ s, reply.series = some s ↔ i.belongs s (op, reply) = true

namespace Steps
variable {i j : Instance} {op : Op} {reply : Reply}

theorem of_none (hseries : reply.series = none) (hmetrics : j.metrics = i.metrics)
    (hcard : ∀ target, (j.route target).card = (i.route target).card)
    (hbelongs : ∀ s, i.belongs s (op, reply) = false) : i.Steps op reply j where
  metrics := by
    rw [hmetrics, hseries]
    exact Option.map_id'.symm
  card := hcard
  belongs s := by simp only [hseries, hbelongs, reduceCtorEq, Bool.false_eq_true]

theorem of_some {t : Series} (hseries : reply.series = some t)
    (hmetrics : j.metrics = i.metrics.map (·.record t))
    (hcard : ∀ target, (j.route target).card = (i.route target).card)
    (hbelongs : ∀ s, t = s ↔ i.belongs s (op, reply) = true) : i.Steps op reply j where
  metrics := by
    rw [hmetrics, hseries]
    rfl
  card := hcard
  belongs s := by rw [hseries, Option.some.injEq, hbelongs]

end Steps

theorem metrics_putBack (i : Instance) (target : Bytes) (f : Frontend) :
    (i.putBack target f).metrics = i.metrics := by
  rw [putBack]
  split <;> rfl

theorem metrics_record_putBack (i : Instance) (target : Bytes) (f : Frontend) (s : Series) :
    ((i.putBack target f).record s).metrics = i.metrics.map (·.record s) := by
  rw [record, metrics_putBack]

theorem steps_validate (i : Instance) (target : Bytes) (fields : Fields) (cookie : Bytes) :
    i.Steps (.validate target fields cookie) (.validated (i.validate target fields cookie).1)
      (i.validate target fields cookie).2 := by
  have hcard := (i.route target).card_validate i.clock fields cookie
  have hlabel : ∀ v, ((i.route target).validate i.clock fields cookie).1 = .ok v → _ :=
    fun v => (i.route target).label_validate i.clock fields
  rw [validate]
  generalize (i.route target).validate i.clock fields cookie = call at hcard hlabel ⊢
  obtain ⟨answer, f⟩ := call
  have hname : f.name = (i.route target).name := congrArg Prod.fst hcard
  cases answer with
  | error fault => exact .of_none rfl (metrics_putBack ..) (card_putBack hcard) (by simp [belongs])
  | ok verdict =>
    refine .of_some rfl (metrics_record_putBack ..) (card_putBack hcard) fun s => ?_
    cases s <;> simp [belongs, hname, hlabel verdict rfl]

theorem steps_challenge (i : Instance) (target : Bytes) (fields : Fields) (method body : Bytes) :
    i.Steps (.challenge target fields method body)
      (.challenged (i.challenge target fields method body).1)
      (i.challenge target fields method body).2 := by
  have hcard := (i.route target).card_challenge i.clock fields method body
  have hpolicy : ∀ a, ((i.route target).challenge i.clock fields method body).1 = .ok (some a) → _ :=
    fun a => (i.route target).policy_challenge i.clock fields
  rw [challenge]
  generalize (i.route target).challenge i.clock fields method body = call at hcard hpolicy ⊢
  obtain ⟨answer, f⟩ := call
  have hname : f.name = (i.route target).name := congrArg Prod.fst hcard
  cases answer with
  | error fault => exact .of_none rfl (metrics_putBack ..) (card_putBack hcard) (by simp [belongs])
  | ok answer =>
    cases answer with
    | none => exact .of_none rfl (metrics_putBack ..) (card_putBack hcard) (by simp [belongs])
    | some a =>
      refine .of_some rfl (metrics_record_putBack ..) (card_putBack hcard) fun s => ?_
      cases s <;> simp [belongs, hname, hpolicy a rfl, outcomeLabel_eq, and_assoc]

theorem steps_apply (i : Instance) (op : Op) : i.Steps op (i.apply op).1 (i.apply op).2 := by
  cases op with
  | clock op => exact .of_none rfl rfl (fun _ => rfl) (by simp [apply, belongs])
  | validate target fields cookie => exact i.steps_validate target fields cookie
  | challenge target fields method body => exact i.steps_challenge target fields method body

/-- Instances with the same cards behind the names count the same calls to a series. -/
theorem belongs_congr {i j : Instance} (h : ∀ target, (j.route target).card = (i.route target).card)
    (s : Series) (call : Op × Reply) : j.belongs s call = i.belongs s call := by
  have hname : ∀ target, (j.route target).name = (i.route target).name :=
    fun target => congrArg Prod.fst (h target)
  have hlevels : ∀ target, (j.route target).engine.levels = (i.route target).engine.levels :=
    fun target => congrArg Prod.snd (h target)
  unfold belongs
  simp only [hname, hlevels]

/-- All that some calls count, in order. -/
def counted (i : Instance) (calls : List Op) : List Series :=
  (i.replies calls).filterMap Reply.series

/-- The counters take up what each call counts. -/
theorem metrics_run (i : Instance) (calls : List Op) :
    (i.run calls).metrics = i.metrics.map fun m => (i.counted calls).foldl .record m := by
  induction calls generalizing i with
  | nil => simp [run, counted, replies]
  | cons op calls ih =>
    show ((i.apply op).2.run calls).metrics = _
    rw [ih, (i.steps_apply op).metrics, Option.map_map]
    congr 1
    funext m
    rw [counted, counted, replies, List.filterMap_cons]
    cases (i.apply op).1.series <;> rfl

theorem count_counted (i : Instance) (calls : List Op) (s : Series) :
    (i.counted calls).count s = (calls.zip (i.replies calls)).countP (i.belongs s) := by
  induction calls generalizing i with
  | nil => rfl
  | cons op calls ih =>
    have hstep := i.steps_apply op
    have hrest : (calls.zip ((i.apply op).2.replies calls)).countP ((i.apply op).2.belongs s) =
        (calls.zip ((i.apply op).2.replies calls)).countP (i.belongs s) :=
      List.countP_congr fun call _ => by rw [belongs_congr hstep.card]
    rw [counted, replies, List.zip_cons_cons, List.countP_cons, ← hrest, ← ih, counted,
      List.filterMap_cons]
    have hiff := hstep.belongs s
    cases hseries : (i.apply op).1.series with
    | none =>
      rw [hseries] at hiff
      rw [if_neg fun h => nomatch hiff.mpr h]
      rfl
    | some t =>
      rw [hseries, Option.some.injEq] at hiff
      rw [List.count_cons]
      simp only [beq_iff_eq, hiff]

theorem known_counted {i : Instance} {calls : List Op} {s : Series} (h : s ∈ i.counted calls) :
    s.Known := by
  obtain ⟨reply, -, hseries⟩ := List.mem_filterMap.mp h
  unfold Reply.series at hseries
  split at hseries
  · cases hseries
    exact ⟨_, rfl⟩
  · cases hseries
    exact ⟨_, rfl⟩
  · cases hseries

theorem challenge_zero (i : Instance) (target : Bytes) {fields : Fields} (method body : Bytes)
    (hzero : fields.level = 0) : (i.challenge target fields method body).1 = .ok none := by
  rw [challenge, Frontend.challenge, if_pos hzero]

/-- Where the fingerprints of a counter tell its texts apart, a series is counted with no other. -/
theorem meets_counted {i : Instance} {calls : List Op} {s : Series} (hs : s.Known)
    (hprints : ∀ t ∈ i.counted calls, t.name = s.name → t.fingerprint = s.fingerprint →
      t.values = s.values) :
    (i.counted calls).countP (·.meets s) = (i.counted calls).count s := by
  refine List.countP_congr fun t ht => ?_
  rw [Series.meets_iff, beq_iff_eq]
  constructor
  · rintro ⟨hname, hprint⟩
    exact Series.eq_of_values (known_counted ht) hs hname (hprints t ht hname hprint)
  · rintro rfl
    exact ⟨rfl, rfl⟩

/-- **A counter shows how many calls belong to its labels.** After any calls, to whatever names and
at whatever times, the count of a series is the number of the token checks, or of the policy runs,
that the frontend of its name answered with its outcome. A refused call and a policy run at level 0
change no counter. The counters are taken to tell their label texts apart. -/
theorem counts_calls (i : Instance) (calls : List Op) :
    ∃ m, (i.withMetrics.run calls).metrics = some m ∧
      (∀ s : Series, s.Known →
        (∀ t ∈ i.withMetrics.counted calls, t.name = s.name → t.fingerprint = s.fingerprint →
          t.values = s.values) →
        m.count s = (calls.zip (i.withMetrics.replies calls)).countP (i.belongs s)) ∧
      ∀ op, ((∃ fault, ((i.withMetrics.run calls).apply op).1 = .validated (.error fault) ∨
            ((i.withMetrics.run calls).apply op).1 = .challenged (.error fault)) ∨
          ∃ target fields method body, op = .challenge target fields method body ∧
            fields.level = 0) →
        ((i.withMetrics.run calls).apply op).2.metrics = some m := by
  have hmetrics := i.withMetrics.metrics_run calls
  refine ⟨_, hmetrics, fun s hs hprints => ?_, fun op hidle => ?_⟩
  · rw [Metrics.count_foldl, meets_counted hs hprints, count_counted]
    show 0 + _ = _
    rw [Nat.zero_add]
    rfl
  · have hstep := (i.withMetrics.run calls).steps_apply op
    have hnone : ((i.withMetrics.run calls).apply op).1.series = none := by
      rcases hidle with ⟨fault, hreply | hreply⟩ | ⟨target, fields, method, body, rfl, hzero⟩
      · rw [hreply]
        rfl
      · rw [hreply]
        rfl
      · have hreply : ((i.withMetrics.run calls).apply (.challenge target fields method body)).1 =
            .challenged (.ok none) := congrArg Reply.challenged (challenge_zero _ target method body hzero)
        rw [hreply]
        rfl
    rw [hstep.metrics, hnone, hmetrics]
    rfl

namespace Sample
open Engine.Session.Sample

/-- One frontend for all, and a shop that asks for work. -/
def shops : Instance :=
  (ofFallback ⟨"default", .build secret openLevels⟩ Engine.Session.Sample.clock).withFrontend
    ⟨"shop", .build secret levels⟩

/-- Two clients without a token come to the shop, one of them at a switched-off level, and one asks
it for work at level 9; then the clock stands an hour later, a name that nobody has is asked, and an
address is none. -/
def visits : List Op :=
  [.validate (Bytes.ofText "shop") ⟨1, [192, 0, 2, 1], [97]⟩ [],
    .validate (Bytes.ofText "shop") ⟨0, [], []⟩ [],
    .challenge (Bytes.ofText "shop") ⟨9, [192, 0, 2, 1], [97]⟩ (Bytes.ofText "GET") [],
    .clock (.advance hour),
    .challenge (Bytes.ofText "nobody") ⟨1, [192, 0, 2, 1], [97]⟩ (Bytes.ofText "GET") [],
    .validate (Bytes.ofText "shop") ⟨1, [192], [97]⟩ []]

end Sample

/-- Each visit is counted once where it belongs, and the refused one nowhere. -/
theorem counts_visits : ∃ m, (Sample.shops.withMetrics.run Sample.visits).metrics = some m ∧
    m.count (.validation "shop" "BERGHAIN_TOKEN_EMPTY") = 1 ∧
    m.count (.validation "shop" "disabled") = 1 ∧
    m.count (.challenge "shop" .proofOfWork "ok") = 1 ∧
    m.count (.challenge "default" .none "ok") = 1 ∧
    ((Sample.shops.withMetrics.run Sample.visits).apply
      (.validate (Bytes.ofText "shop") ⟨1, [192], [97]⟩ [])).2.metrics = some m := by
  obtain ⟨m, hm, hcount, hidle⟩ := counts_calls Sample.shops Sample.visits
  refine ⟨m, hm, ?_, ?_, ?_, ?_, hidle _ (.inl ⟨_, .inl rfl⟩)⟩
  · exact (hcount (.validation _ _) ⟨.invalid .empty, rfl⟩ (by decide +kernel)).trans (by decide +kernel)
  · exact (hcount (.validation _ _) ⟨.disabled, rfl⟩ (by decide +kernel)).trans (by decide +kernel)
  · exact (hcount (.challenge _ _ _) ⟨.ok (), rfl⟩ (by decide +kernel)).trans (by decide +kernel)
  · exact (hcount (.challenge _ _ _) ⟨.ok (), rfl⟩ (by decide +kernel)).trans (by decide +kernel)

end Instance
end Passage
