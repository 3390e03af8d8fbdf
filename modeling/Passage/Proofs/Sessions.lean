import Passage.Engine.Session
import Passage.Proofs.Answers

/- Sessions that a new engine comes to.

   Whatever calls were made, and whichever of them were refused, the engine's pools
   hold nothing but objects as good as new and every response in a caller's hand
   could be given back as one. That is `Session.Sound`: a new session has it
   (`sound_start`), every call keeps it (`Sound.apply`), so every session that
   `reached` names has it (`sound_reached`).

   The replies of a sound session follow: what a call is told depends on the secret,
   the table, the clock and the call (`Sound.reply_verify`, `Sound.reply_issue`,
   `Sound.reply_run`), not on the calls before. -/
namespace Passage

namespace Lending
variable {σ α : Type} [DecidableEq σ]

/-- The pool lends only `x`, and what is lent is good. -/
structure Keeps (good : α → Prop) (x : α) (l : Lending σ α) : Prop where
  pool : l.pool.Fresh x
  held : ∀ p ∈ l.held, good p.2

variable {good : α → Prop} {x : α} {l : Lending σ α}

theorem Keeps.object (h : l.Keeps good x) {slot : σ} {y : α} (hy : l.object? slot = some y) :
    good y := by
  rw [object?] at hy
  obtain ⟨before, after, hsplit, -⟩ := List.lookup_eq_some_iff.mp hy
  exact h.held (slot, y) (by rw [hsplit]; simp)

theorem Keeps.without (h : l.Keeps good x) (slot : σ) : ∀ p ∈ l.without slot, good p.2 :=
  fun p hp => h.held p (List.mem_filter.mp hp).1

variable [Reusable α]

/-- A slot that acquires gets an object as good as new, and what it held goes back. -/
theorem Keeps.acquire (h : l.Keeps good x) (hx : good x) (hg : ∀ y, good y → Reusable.reset y = x)
    (slot : σ) : (l.acquire slot).Keeps good x := by
  obtain ⟨hlent, hpool⟩ := h.pool.acquire
  rw [Lending.acquire]
  -- The new object leaves the pool before the old one is back in it.
  refine ⟨?_, ?_⟩
  · cases hy : l.object? slot with
    | none => exact hpool
    | some y => exact hpool.release (hg y (h.object hy))
  · intro p hp
    rcases List.mem_cons.mp hp with rfl | hp
    · rw [hlent]
      exact hx
    · exact h.without slot p hp

theorem Keeps.release (h : l.Keeps good x) (hg : ∀ y, good y → Reusable.reset y = x) (slot : σ) :
    (l.release slot).Keeps good x := by
  rw [Lending.release]
  cases hy : l.object? slot with
  | none => exact h
  | some y => exact ⟨h.pool.release (hg y (h.object hy)), h.without slot⟩

end Lending

namespace Engine.Session

/-- The engine is ready, and every response in use is sound. -/
structure Sound (secret : Secret) (levels : LevelTable) (s : Session) : Prop where
  engine : s.engine.Ready secret levels
  held : ∀ p ∈ s.held, p.2.Sound

/-- The session that a new engine comes to by a list of calls. -/
def reached (secret : Secret) (levels : LevelTable) (clock : Clock) (calls : List Op) : Session :=
  (start (.build secret levels) clock).run calls

/-- A session of the secret: one that a new engine comes to, with some table, clock and calls. -/
def Keyed (secret : Secret) (s : Session) : Prop :=
  ∃ levels clock calls, s = reached secret levels clock calls

theorem clock_apply (s : Session) (op : Op) : (s.apply op).2.clock =
    match op with
    | .clock op => (s.clock.apply op).2
    | _ => s.clock := by
  cases op with
  | run slot request =>
    rw [apply]
    cases s.lending.object? slot <;> rfl
  | _ => rfl

theorem sound_start (secret : Secret) (levels : LevelTable) (clock : Clock) :
    (start (.build secret levels) clock).Sound secret levels :=
  ⟨ready_build secret levels, fun _ h => absurd h List.not_mem_nil⟩

namespace Sound
variable {secret : Secret} {levels : LevelTable} {s : Session}

theorem lending (h : s.Sound secret levels) : s.lending.Keeps Response.Sound .blank :=
  ⟨h.engine.responses, h.held⟩

theorem withLending (h : s.Sound secret levels) {l : Lending Nat Response}
    (hl : l.Keeps Response.Sound .blank) : (s.withLending l).Sound secret levels :=
  ⟨{ h.engine with responses := hl.pool }, hl.held⟩

/-! Replies. -/

theorem reply_verify (h : s.Sound secret levels) (id : Identity) (token : Bytes) :
    (s.apply (.verify id token)).1 =
      .verified (firstUnmet (Token.requirements secret.bytes s.clock.now id token)) := by
  obtain ⟨e, he, -⟩ := h.engine.verify s.clock id token
  simp only [Session.apply, he]

theorem reply_issue (h : s.Sound secret levels) (id : Identity) (lifetime : Duration) (out : Buffer) :
    (s.apply (.issue id lifetime out)).1 =
      .issued (Shortage.outcome
          (out.writeAll (Token.fields secret.bytes id (s.clock.expiresAt lifetime))).1)
        (out.writeAll (Token.fields secret.bytes id (s.clock.expiresAt lifetime))).2 := by
  obtain ⟨e, he, -⟩ := h.engine.issue s.clock id lifetime out
  simp only [Session.apply, he]

theorem reply_run (h : s.Sound secret levels) (slot : Nat) (request : Request) :
    (s.apply (.run slot request)).1 =
      if (s.lending.object? slot).isSome then
        .ran (answer secret levels s.clock request).1 (answer secret levels s.clock request).2
      else .unheld := by
  cases ho : s.lending.object? slot with
  | none => simp [Session.apply, ho]
  | some response =>
    obtain ⟨e, he, -⟩ := h.engine.run s.clock request (h.lending.object ho)
    simp [Session.apply, ho, he]

/-- Where there is room for a token, the whole token is appended. -/
theorem issues (h : s.Sound secret levels) (id : Identity) (lifetime : Duration) {buffer : Buffer}
    (hb : buffer.Sound) (hroom : Token.size ≤ buffer.room) :
    ∃ out, (s.apply (.issue id lifetime buffer)).1 = .issued (.ok ()) out ∧
      out.readable =
        buffer.readable ++ Token.signed secret.bytes id (s.clock.expiresAt lifetime) := by
  have hfit : (Token.fields secret.bytes id (s.clock.expiresAt lifetime)).flatten.length ≤
      buffer.room := by
    rw [← Token.signed, Token.length_signed]
    exact hroom
  obtain ⟨out, hwrite, hread⟩ := hb.writeAll_of_room hfit
  refine ⟨out, ?_, hread⟩
  rw [h.reply_issue, hwrite]
  rfl

/-! Steps and runs. -/

/-- Every call leaves a sound session, refused or not. -/
theorem apply (h : s.Sound secret levels) (op : Op) : (s.apply op).2.Sound secret levels := by
  cases op with
  | clock op => exact ⟨h.engine, h.held⟩
  | issue id lifetime out =>
    obtain ⟨e, he, hready⟩ := h.engine.issue s.clock id lifetime out
    simp only [Session.apply, he]
    exact ⟨hready, h.held⟩
  | verify id token =>
    obtain ⟨e, he, hready⟩ := h.engine.verify s.clock id token
    simp only [Session.apply, he]
    exact ⟨hready, h.held⟩
  | acquire slot =>
    exact h.withLending
      (h.lending.acquire Response.sound_blank (fun _ hr => hr.reset_eq) slot)
  | release slot => exact h.withLending (h.lending.release (fun _ hr => hr.reset_eq) slot)
  | run slot request =>
    rw [Session.apply]
    cases ho : s.lending.object? slot with
    | none => exact h
    | some response =>
      obtain ⟨e, he, hready⟩ := h.engine.run s.clock request (h.lending.object ho)
      simp only [he]
      refine ⟨hready, ?_⟩
      intro p hp
      rcases List.mem_cons.mp hp with rfl | hp
      · exact sound_answer secret levels s.clock request
      · exact h.lending.without slot p hp

theorem run (h : s.Sound secret levels) (calls : List Op) : (s.run calls).Sound secret levels := by
  induction calls generalizing s with
  | nil => exact h
  | cons op calls ih => exact ih (h.apply op)

end Sound

theorem sound_reached (secret : Secret) (levels : LevelTable) (clock : Clock) (calls : List Op) :
    (reached secret levels clock calls).Sound secret levels :=
  (sound_start secret levels clock).run calls

theorem Keyed.sound {secret : Secret} {s : Session} (h : s.Keyed secret) :
    ∃ levels, s.Sound secret levels := by
  obtain ⟨levels, clock, calls, rfl⟩ := h
  exact ⟨levels, sound_reached secret levels clock calls⟩

/-! A small setting, for closed cases. -/

namespace Sample

def secret : Secret := ⟨List.replicate 32 0, List.length_replicate⟩

def hour : Duration := { Duration.zero with seconds := 3600, seconds_lt := by decide }

def levels : LevelTable := ⟨[.ofParts hour .proofOfWork], List.cons_ne_nil _ _, by decide⟩

def openLevels : LevelTable := ⟨[.ofParts hour .none], List.cons_ne_nil _ _, by decide⟩

def clock : Clock := ⟨⟨1700000000, 0, by decide, by decide, by decide⟩⟩

def identity : Identity := ⟨.v4 192 0 2 1, [97], 1⟩

end Sample

end Engine.Session
end Passage
