import Passage.Proofs.Sessions

/- Every call as if it were the first of a new engine.

   An engine keeps what it borrowed for its work, and calls end in many ways: a token
   that is refused at its first separator, a solution whose proof is another's, a
   response that was filled half. `Ledger` is an engine without any of it. It knows the
   clock and which slots hold a response, and answers from the secret and the table.

   1. A sound session answers what its ledger answers and goes where its ledger goes
      (`Sound.apply_ledger`), hence over whole runs (`Sound.replies_ledger`).
   2. A session renewed, that is with a new engine and new responses, has the same
      ledger (`ledger_renewed`), and so has one whose pools keep nothing
      (`Engine.unpooled`).
   3. Whatever lies idle in a sound session equals what a new engine builds
      (`Sound.asNew`). -/
namespace Passage

namespace Lending
variable {σ α : Type} [DecidableEq σ] (l : Lending σ α)

def slots : List σ := l.held.map Prod.fst

theorem isSome_object?_iff (slot : σ) : (l.object? slot).isSome ↔ slot ∈ l.slots := by
  rw [object?, List.lookup_isSome_iff, slots, List.mem_map]
  constructor
  · rintro ⟨p, hp, hslot⟩
    exact ⟨p, hp, (beq_iff_eq.mp hslot).symm⟩
  · rintro ⟨p, hp, hslot⟩
    exact ⟨p, hp, beq_iff_eq.mpr hslot.symm⟩

theorem object?_eq_none_iff (slot : σ) : l.object? slot = none ↔ slot ∉ l.slots := by
  rw [← isSome_object?_iff, Option.not_isSome_iff_eq_none]

theorem map_fst_without (slot : σ) :
    (l.without slot).map Prod.fst = l.slots.filter (· ≠ slot) := by
  rw [without, slots, List.filter_map]
  rfl

variable [Reusable α]

theorem slots_acquire (slot : σ) :
    (l.acquire slot).slots = slot :: l.slots.filter (· ≠ slot) := by
  rw [← map_fst_without]
  rfl

theorem slots_release (slot : σ) : (l.release slot).slots = l.slots.filter (· ≠ slot) := by
  rw [release]
  cases ho : l.object? slot with
  | some x => exact l.map_fst_without slot
  | none =>
    -- No slot of this name is in use, so none is left out.
    have hslot := (l.object?_eq_none_iff slot).mp ho
    refine (List.filter_eq_self.mpr fun a ha => decide_eq_true ?_).symm
    rintro rfl
    exact hslot ha

end Lending

/-- Whatever lies idle equals what an engine of this secret builds. -/
structure Bench.AsNew (secret : Secret) (b : Bench) : Prop where
  keyed : ∀ x ∈ b.keyed.idle, x = .keyed secret.bytes
  plain : ∀ x ∈ b.plain.idle, x = .start
  scratch : ∀ x ∈ b.scratch.idle, x = .ofCapacity scratchCapacity
  responses : ∀ x ∈ b.responses.idle, x = .blank

/-- A bench that keeps nothing: every object is built for one use. -/
def Bench.unpooled (secret : Secret) : Bench where
  keyed := .withMaxIdle (fun _ => .keyed secret.bytes) 0
  plain := .withMaxIdle (fun _ => .start) 0
  scratch := .withMaxIdle (fun _ => .ofCapacity scratchCapacity) 0
  responses := .withMaxIdle (fun _ => .blank) 0

namespace Engine

/-- A new engine without reuse. -/
def unpooled (secret : Secret) (levels : LevelTable) : Engine := ⟨secret, levels, .unpooled secret⟩

theorem ready_unpooled (secret : Secret) (levels : LevelTable) :
    (unpooled secret levels).Ready secret levels :=
  ⟨rfl, rfl, Pool.fresh_withMaxIdle .., Pool.fresh_withMaxIdle .., Pool.fresh_withMaxIdle ..,
    Pool.fresh_withMaxIdle ..⟩

/-- What a session shows between two calls: its clock, and the slots that hold a response. -/
structure Ledger where
  clock : Clock
  slots : List Nat

namespace Ledger
variable (secret : Secret) (levels : LevelTable)

/-- One call, answered without an engine. -/
def apply (l : Ledger) : Session.Op → Session.Reply × Ledger
  | .clock op => (.clock (l.clock.apply op).1, { l with clock := (l.clock.apply op).2 })
  | .issue id lifetime out =>
    let (result, out) := out.writeAll (Token.fields secret.bytes id (l.clock.expiresAt lifetime))
    (.issued (Shortage.outcome result) out, l)
  | .verify id token =>
    (.verified (firstUnmet (Token.requirements secret.bytes l.clock.now id token)), l)
  | .acquire slot => (.done, { l with slots := slot :: l.slots.filter (· ≠ slot) })
  | .release slot => (.done, { l with slots := l.slots.filter (· ≠ slot) })
  | .run slot request =>
    if slot ∈ l.slots then
      (.ran (answer secret levels l.clock request).1 (answer secret levels l.clock request).2,
        { l with slots := slot :: l.slots.filter (· ≠ slot) })
    else (.unheld, l)

def replies (l : Ledger) : List Session.Op → List Session.Reply
  | [] => []
  | op :: rest => (l.apply secret levels op).1 :: (l.apply secret levels op).2.replies rest

end Ledger

namespace Session

def ledger (s : Session) : Ledger := ⟨s.clock, s.lending.slots⟩

/-- The same clock and slots, with a new engine and new responses. -/
def renewed (secret : Secret) (levels : LevelTable) (s : Session) : Session :=
  ⟨.build secret levels, s.clock, s.held.map fun p => (p.1, .blank)⟩

theorem ledger_renewed (secret : Secret) (levels : LevelTable) (s : Session) :
    (s.renewed secret levels).ledger = s.ledger := by
  have hslots : (s.renewed secret levels).lending.slots = s.lending.slots :=
    List.map_map
  rw [ledger, hslots]
  rfl

theorem sound_renewed (secret : Secret) (levels : LevelTable) (s : Session) :
    (s.renewed secret levels).Sound secret levels := by
  refine ⟨ready_build secret levels, fun p hp => ?_⟩
  obtain ⟨q, -, rfl⟩ := List.mem_map.mp hp
  exact Response.sound_blank

theorem sound_start_unpooled (secret : Secret) (levels : LevelTable) (clock : Clock) :
    (start (.unpooled secret levels) clock).Sound secret levels :=
  ⟨ready_unpooled secret levels, fun _ h => absurd h List.not_mem_nil⟩

namespace Sound
variable {secret : Secret} {levels : LevelTable} {s : Session}

theorem asNew (h : s.Sound secret levels) : s.engine.bench.AsNew secret :=
  ⟨h.engine.keyed.idle_eq, h.engine.plain.idle_eq, h.engine.scratch.idle_eq,
    h.engine.responses.idle_eq⟩

theorem acquired (h : s.Sound secret levels) (slot : Nat) :
    (s.apply (.acquire slot)).2.lending.object? slot = some .blank := by
  have hlent := h.engine.responses.acquire.1
  show List.lookup slot ((slot, _) :: _) = _
  rw [List.lookup_cons_self]
  exact congrArg some hlent

/-- A sound session answers what its ledger answers, and goes where its ledger goes. -/
theorem apply_ledger (h : s.Sound secret levels) (op : Op) :
    (s.apply op).1 = (s.ledger.apply secret levels op).1 ∧
      (s.apply op).2.ledger = (s.ledger.apply secret levels op).2 := by
  cases op with
  | clock op => exact ⟨rfl, rfl⟩
  | issue id lifetime out => exact ⟨h.reply_issue id lifetime out, rfl⟩
  | verify id token => exact ⟨h.reply_verify id token, rfl⟩
  | acquire slot => exact ⟨rfl, congrArg (Ledger.mk s.clock) (s.lending.slots_acquire slot)⟩
  | release slot => exact ⟨rfl, congrArg (Ledger.mk s.clock) (s.lending.slots_release slot)⟩
  | run slot request =>
    have hreply := h.reply_run slot request
    rw [Ledger.apply]
    cases ho : s.lending.object? slot with
    | none =>
      have hout : slot ∉ s.ledger.slots := (s.lending.object?_eq_none_iff slot).mp ho
      rw [if_neg hout, hreply, ho]
      refine ⟨rfl, ?_⟩
      simp only [Session.apply, ho]
    | some response =>
      have hin : slot ∈ s.ledger.slots :=
        (s.lending.isSome_object?_iff slot).mp (Option.isSome_of_eq_some ho)
      rw [if_pos hin, hreply, ho]
      refine ⟨rfl, ?_⟩
      simp only [Session.apply, ho]
      exact congrArg (fun slots => Ledger.mk s.clock (slot :: slots)) (s.lending.map_fst_without slot)

theorem replies_ledger (h : s.Sound secret levels) (calls : List Op) :
    s.replies calls = s.ledger.replies secret levels calls := by
  induction calls generalizing s with
  | nil => rfl
  | cons op calls ih =>
    obtain ⟨hreply, hnext⟩ := h.apply_ledger op
    show (s.apply op).1 :: (s.apply op).2.replies calls = _
    rw [ih (h.apply op), hreply, hnext, Ledger.replies]

end Sound

/-- **An engine in use is a new one to its callers.** After any calls, refused ones among them, what
lies idle in the four pools equals what a new engine builds; every further call is answered as by
a new engine of the secret, the table and the clock's time, with a new response; a response that is
handed out is empty. So the answers to a list of calls are those of an engine without pools. -/
theorem as_on_new_engine (secret : Secret) (levels : LevelTable) (clock : Clock) (calls : List Op) :
    (reached secret levels clock calls).engine.bench.AsNew secret ∧
      (∀ op, ((reached secret levels clock calls).apply op).1 =
        (((reached secret levels clock calls).renewed secret levels).apply op).1) ∧
      (∀ slot, ((reached secret levels clock calls).apply (.acquire slot)).2.lending.object? slot =
        some .blank) ∧
      (start (.build secret levels) clock).replies calls =
        (start (.unpooled secret levels) clock).replies calls := by
  have hsound := sound_reached secret levels clock calls
  refine ⟨hsound.asNew, fun op => ?_, hsound.acquired, ?_⟩
  · rw [(hsound.apply_ledger op).1, ((sound_renewed secret levels _).apply_ledger op).1,
      ledger_renewed]
  · rw [(sound_start secret levels clock).replies_ledger,
      (sound_start_unpooled secret levels clock).replies_ledger]
    rfl

end Session
end Engine
end Passage
