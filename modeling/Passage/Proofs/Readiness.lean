import Passage.Engine
import Passage.Proofs.BufferView
import Passage.Proofs.Codecs
import Passage.Proofs.Requirements
import Passage.Proofs.Streaming

/- Engines whose pools hold nothing but objects as good as new.

   `Pool.Fresh p x` says that whatever `p` lends is `x`. It outlasts a loan exactly
   if the object comes back in a state that `reset` turns into `x` (`Fresh.lend`).
   `Engine.Ready` says so of an engine's four pools; a new engine is ready
   (`ready_build`), and each piece of borrowed work gives the value that its inputs
   alone determine and leaves a ready engine: it `Gives` that value (`Ready.sign`,
   `Ready.digest`, `Ready.spell`). -/
namespace Passage

namespace Pool
variable {α β : Type}

/-- Every object that lies idle or would be built is `x`. -/
structure Fresh (p : Pool α) (x : α) : Prop where
  make_eq : ∀ n, p.make n = x
  idle_eq : ∀ y ∈ p.idle, y = x

theorem fresh_withMaxIdle (x : α) (n : Nat) : (withMaxIdle (fun _ => x) n).Fresh x :=
  ⟨fun _ => rfl, fun _ h => absurd h List.not_mem_nil⟩

theorem fresh_ofMake (x : α) : (ofMake fun _ => x).Fresh x := fresh_withMaxIdle x _

namespace Fresh
variable {p : Pool α} {x : α}

theorem acquire (h : p.Fresh x) : p.acquire.1 = x ∧ p.acquire.2.Fresh x := by
  obtain ⟨hm, hi⟩ := h
  rw [Pool.acquire]
  cases hp : p.idle with
  | nil =>
    refine ⟨hm _, hm, ?_⟩
    rw [hp] at hi
    simpa only [hp] using hi
  | cons y rest =>
    rw [hp] at hi
    exact ⟨hi y List.mem_cons_self, hm, fun z hz => hi z (List.mem_cons_of_mem y hz)⟩

theorem release [Reusable α] (h : p.Fresh x) {y : α} (hy : Reusable.reset y = x) :
    (p.release y).Fresh x := by
  rw [Pool.release]
  split
  · refine ⟨h.make_eq, fun z hz => ?_⟩
    rcases List.mem_cons.mp hz with rfl | hz
    · exact hy
    · exact h.idle_eq z hz
  · exact h

/-- A use of a lent object is a use of a new one. -/
theorem lend [Reusable α] (h : p.Fresh x) (use : α → β × α) {b : β} {y : α} (hu : use x = (b, y))
    (hy : Reusable.reset y = x) : (p.lend use).1 = b ∧ (p.lend use).2.Fresh x := by
  obtain ⟨ha, hp⟩ := h.acquire
  rw [Pool.lend]
  simp only [ha, hu]
  exact ⟨trivial, hp.release hy⟩

theorem lent [Reusable α] (h : p.Fresh x) {use : α → β × α} {a b : β} {p' : Pool α} {y : α}
    (hlend : p.lend use = (a, p')) (hu : use x = (b, y)) (hy : Reusable.reset y = x) :
    a = b ∧ p'.Fresh x := by
  have hl := h.lend use hu hy
  rwa [hlend] at hl

end Fresh
end Pool

namespace Response

/-- Both parts are sound and have the room of a new response. -/
structure Sound (r : Response) : Prop where
  body : r.body.Sound
  token : r.token.Sound
  body_room : r.body.capacity = bodyCapacity
  token_room : r.token.capacity = Token.size

theorem sound_blank : blank.Sound :=
  ⟨Buffer.sound_ofCapacity _, Buffer.sound_ofCapacity _, by simp [blank, Buffer.ofCapacity_eq],
    by simp [blank, Buffer.ofCapacity_eq]⟩

theorem Sound.reset_eq {r : Response} (h : r.Sound) : r.reset = blank := by
  rw [reset, h.body.clear_eq, h.token.clear_eq, h.body_room, h.token_room]
  rfl

end Response

namespace Engine

/-- An engine of this secret and table, all of whose idle objects are as good as new. -/
structure Ready (secret : Secret) (levels : LevelTable) (e : Engine) : Prop where
  secret_eq : e.secret = secret
  levels_eq : e.levels = levels
  keyed : e.bench.keyed.Fresh (.keyed secret.bytes)
  plain : e.bench.plain.Fresh .start
  scratch : e.bench.scratch.Fresh (.ofCapacity scratchCapacity)
  responses : e.bench.responses.Fresh .blank

theorem ready_build (secret : Secret) (levels : LevelTable) :
    (build secret levels).Ready secret levels :=
  ⟨rfl, rfl, Pool.fresh_ofMake _, Pool.fresh_ofMake _, Pool.fresh_ofMake _, Pool.fresh_ofMake _⟩

/-- A call gives this answer and leaves a ready engine. -/
def Gives (secret : Secret) (levels : LevelTable) {α : Type} (call : α × Engine) (answer : α) : Prop :=
  ∃ e, call = (answer, e) ∧ e.Ready secret levels

/-- A call that is refused where a requirement is not met, and goes on where it is. -/
theorem Gives.require {secret : Secret} {levels : LevelTable} {call : Outcome × Engine} {p : Prop}
    [Decidable p] {r : Rejection} {rest : List Requirement}
    (hn : ¬p → Gives secret levels call (.error r))
    (hp : p → Gives secret levels call (firstUnmet rest)) :
    Gives secret levels call (firstUnmet (⟨p, r⟩ :: rest)) := by
  rw [firstUnmet_cons]
  split
  · next h => exact hp h
  · next h => exact hn h

theorem flatten_pair (a b : Bytes) : [a, b].flatten = a ++ b := by
  rw [List.flatten_cons, List.flatten_cons, List.flatten_nil, List.append_nil]

namespace Ready
variable {secret : Secret} {levels : LevelTable} {e : Engine}

theorem sign (h : e.Ready secret levels) (pieces : List Bytes) :
    Gives secret levels (e.sign pieces) (Hmac.tag secret.bytes pieces.flatten) := by
  obtain ⟨hv, hp⟩ := h.keyed.lend (fun mac => (pieces.foldl Hmac.Stream.absorb mac).finish)
    (Hmac.Stream.finish_foldl secret.bytes pieces) (Hmac.Stream.reset_keyed secret.bytes)
  rw [Engine.sign, ← hv]
  exact ⟨_, rfl, { h with keyed := hp }⟩

/-- The tag of a message that is fed in two pieces. -/
theorem sign_pair (h : e.Ready secret levels) (a b : Bytes) :
    Gives secret levels (e.sign [a, b]) (Hmac.tag secret.bytes (a ++ b)) := by
  have hs := h.sign [a, b]
  rwa [flatten_pair] at hs

theorem digest (h : e.Ready secret levels) (pieces : List Bytes) :
    Gives secret levels (e.digest pieces) (Sha256.digest pieces.flatten) := by
  obtain ⟨hv, hp⟩ := h.plain.lend (fun sha => (pieces.foldl Sha256.Stream.absorb sha).finish)
    (Sha256.Stream.finish_foldl pieces) rfl
  rw [Engine.digest, ← hv]
  exact ⟨_, rfl, { h with plain := hp }⟩

theorem digest_pair (h : e.Ready secret levels) (a b : Bytes) :
    Gives secret levels (e.digest [a, b]) (Sha256.digest (a ++ b)) := by
  have hd := h.digest [a, b]
  rwa [flatten_pair] at hd

theorem spell_tag (h : e.Ready secret levels) (m : Bytes) :
    Gives secret levels (e.spell (Hmac.tag secret.bytes m))
      (.ok (Hex.encode (Hmac.tag secret.bytes m))) := by
  generalize hl : Hmac.tag secret.bytes m = bs
  have hb : (Hex.encode bs).length = 64 := by rw [Hex.length_encode, ← hl, Hmac.length_tag]
  have hw : (Buffer.ofCapacity scratchCapacity).write (Hex.encode bs) =
      .ok (Buffer.holding (Hex.encode bs) 0 64) := by
    rw [Buffer.ofCapacity_eq, Buffer.write_holding, hb, if_pos (by decide), List.nil_append]
    rfl
  have hs : (Buffer.holding (Hex.encode bs) 0 64).clear = Buffer.ofCapacity scratchCapacity := by
    rw [Buffer.clear_holding, hb, Buffer.ofCapacity_eq]
  rw [Engine.spell]
  split
  next text scratch hlend =>
    obtain ⟨htext, hp⟩ := h.scratch.lent hlend (by rw [hw]) hs
    rw [htext, Buffer.readable_holding, List.drop_zero]
    exact ⟨_, rfl, { h with scratch := hp }⟩

end Ready
end Engine
end Passage
