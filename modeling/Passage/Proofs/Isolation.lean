import Passage.Proofs.Sessions

/- The users of a pool do not notice each other.

   Objects are recycled in any order, come back half read or half fed, and are dropped
   where too many lie idle. What a user sees is told by its own calls alone: `since` are
   the calls made through a slot since it last acquired, and `privately` is the object
   that they make of a new one.

   1. An object `Recycles` if no call takes it where `reset` does not lead back to a new
      one. Buffers do, and so do digests, plain and keyed.
   2. For such objects each step takes every slot where its own calls take it
      (`object?_apply`, `Keeps.apply`), so after any steps every slot holds its private
      object (`isolated_reached`).
   3. A digest in a slot is the digest of what was fed to it since it last began, so what
      it ends with is a plain digest, or a tag under the pool's key. -/
namespace Passage

namespace Lending
variable {σ α ω ρ : Type} [DecidableEq σ]

/-! What a slot holds. -/

theorem lookup_without (l : Lending σ α) (slot s : σ) :
    (l.without slot).lookup s = if s = slot then none else l.object? s := by
  rw [without, object?]
  induction l.held with
  | nil => split <;> rfl
  | cons p held ih =>
    by_cases hp : p.1 = slot
    · rw [List.filter_cons_of_neg (by simpa using hp), ih, List.lookup_cons]
      by_cases hs : s = slot
      · rw [if_pos hs, if_pos hs]
      · rw [if_neg hs, if_neg hs, hp, beq_false_of_ne hs]
    · rw [List.filter_cons_of_pos (by simpa using hp), List.lookup_cons, List.lookup_cons, ih]
      by_cases hs : s = slot
      · rw [if_pos hs, if_pos hs, hs, beq_false_of_ne (Ne.symm hp)]
      · rw [if_neg hs, if_neg hs]

theorem lookup_held_cons (l : Lending σ α) (slot s : σ) (x : α) :
    ((slot, x) :: l.without slot).lookup s = if s = slot then some x else l.object? s := by
  rw [List.lookup_cons, lookup_without]
  by_cases hs : s = slot
  · rw [if_pos hs, if_pos hs, hs, beq_self_eq_true]
  · rw [if_neg hs, if_neg hs, beq_false_of_ne hs]

section Steps
variable [Reusable α] (l : Lending σ α) (slot s : σ)

theorem object?_acquire : (l.acquire slot).object? s =
    if s = slot then some l.pool.acquire.1 else l.object? s :=
  l.lookup_held_cons slot s _

theorem object?_release : (l.release slot).object? s = if s = slot then none else l.object? s := by
  rw [release]
  cases ho : l.object? slot with
  | some x => exact l.lookup_without slot s
  | none =>
    by_cases hs : s = slot
    · rw [if_pos hs, hs, ho]
    · rw [if_neg hs]

theorem object?_use [Callable α ω ρ] (call : ω) :
    (l.apply (.use slot call)).2.object? s =
      if s = slot then (l.object? s).map fun x => (Callable.apply x call).2 else l.object? s := by
  rw [apply]
  by_cases hs : s = slot
  · rw [if_pos hs, hs]
    cases ho : l.object? slot with
    | none => exact ho
    | some x => exact (l.lookup_held_cons slot slot _).trans (if_pos rfl)
  · rw [if_neg hs]
    cases ho : l.object? slot with
    | none => rfl
    | some x => exact (l.lookup_held_cons slot s _).trans (if_neg hs)

end Steps

/-! What a user would see without the others. -/

/-- The calls of a slot's user after one more step; there are none for an empty slot. -/
def track (slot : σ) (calls : Option (List ω)) : Op σ ω → Option (List ω)
  | .acquire s => if slot = s then some [] else calls
  | .release s => if slot = s then none else calls
  | .use s call => if slot = s then calls.map (· ++ [call]) else calls
  | .look => calls

/-- The calls made through a slot since it last acquired, if it has not released since. -/
def since (slot : σ) (steps : List (Op σ ω)) : Option (List ω) := steps.foldl (track slot) none

/-- An object after calls that nobody else comes between. -/
def privately [Callable α ω ρ] (x : α) (calls : List ω) : α :=
  calls.foldl (fun x call => (Callable.apply x call).2) x

/-- The pool and its loans that a new pool comes to, which builds every object alike. -/
def reached [Reusable α] [Callable α ω ρ] (new : α) (maxIdle : Nat) (steps : List (Op σ ω)) :
    Lending σ α :=
  (ofPool (.withMaxIdle (fun _ => new) maxIdle)).run steps

/-- After these steps every slot holds what its own calls make of a new object, and is answered as
that object answers. -/
structure Isolated [Reusable α] [Callable α ω ρ] (new : α) (l : Lending σ α)
    (steps : List (Op σ ω)) : Prop where
  object : ∀ slot, l.object? slot = (since slot steps).map (privately new)
  reply : ∀ slot call, (l.apply (.use slot call)).1 =
    match since slot steps with
    | none => .unheld
    | some calls => .answer (Callable.apply (privately new calls) call).1

/-- Calls keep an object good, and a good object is reset to a new one. -/
structure Recycles [Reusable α] [Callable α ω ρ] (new : α) (good : α → Prop) : Prop where
  begins : good new
  call : ∀ x (call : ω), good x → good (Callable.apply x call).2
  reset : ∀ x, good x → Reusable.reset x = new

section Runs
variable [Reusable α] [Callable α ω ρ] {new : α} {good : α → Prop} {l : Lending σ α}

theorem Keeps.apply (h : l.Keeps good new) (hr : Recycles new good) (step : Op σ ω) :
    (l.apply step).2.Keeps good new := by
  cases step with
  | acquire slot => exact h.acquire hr.begins hr.reset slot
  | release slot => exact h.release hr.reset slot
  | look => exact h
  | use slot call =>
    rw [Lending.apply]
    cases ho : l.object? slot with
    | none => exact h
    | some x =>
      refine ⟨h.pool, fun p hp => ?_⟩
      rcases List.mem_cons.mp hp with rfl | hp
      · exact hr.call x call (h.object ho)
      · exact h.without slot p hp

/-- One step takes a slot where its own calls take it, whatever it does to the others. -/
theorem object?_apply (h : l.Keeps good new) {slot : σ} {calls : Option (List ω)}
    (hslot : l.object? slot = calls.map (privately new)) (step : Op σ ω) :
    (l.apply step).2.object? slot = (track slot calls step).map (privately new) := by
  cases step with
  | acquire s =>
    show (l.acquire s).object? slot = _
    rw [object?_acquire, track, h.pool.acquire.1]
    split
    · rfl
    · exact hslot
  | release s =>
    show (l.release s).object? slot = _
    rw [object?_release, track]
    split
    · rfl
    · exact hslot
  | use s call =>
    rw [object?_use, track, hslot]
    split
    · cases calls with
      | none => rfl
      | some calls => simp [privately]
    · rfl
  | look => exact hslot

theorem object?_run (h : l.Keeps good new) (hr : Recycles new good) {slot : σ}
    {calls : Option (List ω)} (hslot : l.object? slot = calls.map (privately new))
    (steps : List (Op σ ω)) :
    (l.run steps).object? slot = (steps.foldl (track slot) calls).map (privately new) := by
  -- What carries from step to step is that every loan is good: resetting it gives a new one.
  induction steps generalizing l calls with
  | nil => exact hslot
  | cons step steps ih => exact ih (h.apply hr step) (object?_apply h hslot step)

theorem isolated_of_object {steps : List (Op σ ω)}
    (h : ∀ slot, l.object? slot = (since slot steps).map (privately new)) :
    Isolated new l steps := by
  refine ⟨h, fun slot call => ?_⟩
  rw [Lending.apply, h]
  cases since slot steps <;> rfl

theorem isolated_reached (hr : Recycles new good) (maxIdle : Nat) (steps : List (Op σ ω)) :
    Isolated new (reached new maxIdle steps) steps :=
  isolated_of_object fun _ =>
    object?_run ⟨Pool.fresh_withMaxIdle new maxIdle, fun _ hp => absurd hp List.not_mem_nil⟩ hr rfl
      steps

theorem Isolated.reply_held {steps : List (Op σ ω)} (h : Isolated new l steps) {slot : σ}
    {calls : List ω} (hcalls : since slot steps = some calls) (call : ω) :
    (l.apply (.use slot call)).1 = .answer (Callable.apply (privately new calls) call).1 := by
  rw [h.reply, hcalls]

end Runs

/-! Buffers. -/

theorem recycles_buffer (capacity : Nat) :
    Recycles (Buffer.ofCapacity capacity) fun b => b.Sound ∧ b.capacity = capacity where
  begins := ⟨Buffer.sound_ofCapacity capacity, List.length_replicate⟩
  call b op h := by
    obtain ⟨hsound, hcapacity⟩ := h.1.apply op
    exact ⟨hsound, hcapacity.trans h.2⟩
  reset b h := by
    have hclear := h.1.clear_eq
    rwa [h.2] at hclear

end Lending

/-! Digests. -/

namespace Digesting

/-- What has been fed since the start, or since the last reset or end, after one more call. -/
def feed (fed : Bytes) : Digesting → Bytes
  | .absorb piece => fed ++ piece
  | .reset | .finish => []

/-- What was fed by these calls since the last reset or end among them. -/
def fed (calls : List Digesting) : Bytes := calls.foldl feed []

end Digesting

/-- Digests by what they were fed: `after m` was fed `m`, and ends with `value m`. -/
structure Digests {α : Type} [Callable α Digesting (Option Bytes)] (after : Bytes → α)
    (value : Bytes → Bytes) : Prop where
  absorb : ∀ m piece, (Callable.apply (after m) (.absorb piece)).2 = after (m ++ piece)
  reset : ∀ m, (Callable.apply (after m) .reset).2 = after []
  finish : ∀ m, Callable.apply (after m) .finish = (some (value m), after [])

theorem digests_keyed (key : Bytes) : Digests (Hmac.Stream.after key) (Hmac.tag key) where
  absorb := Hmac.Stream.absorb_after key
  reset m := (Hmac.Stream.reset_after key m).trans (Hmac.Stream.keyed_eq key)
  finish m := by
    show (some (Hmac.Stream.after key m).finish.1, (Hmac.Stream.after key m).finish.2) = _
    rw [Hmac.Stream.finish_after, Hmac.Stream.keyed_eq]

theorem digests_plain : Digests Sha256.Stream.after Sha256.digest where
  absorb := Sha256.Stream.absorb_after
  reset _ := Sha256.Stream.start_eq
  finish m := by
    show (some (Sha256.Stream.after m).value, Sha256.Stream.start) = _
    rw [Sha256.Stream.value_after, Sha256.Stream.start_eq]

namespace Lending

section Digests
variable {σ α : Type} [DecidableEq σ] [Callable α Digesting (Option Bytes)] {after : Bytes → α}
  {value : Bytes → Bytes}

theorem privately_after (h : Digests after value) (m : Bytes) (calls : List Digesting) :
    privately (after m) calls = after (calls.foldl Digesting.feed m) := by
  induction calls generalizing m with
  | nil => rfl
  | cons call calls ih =>
    have hcall : (Callable.apply (after m) call).2 = after (Digesting.feed m call) := by
      cases call with
      | absorb piece => exact h.absorb m piece
      | reset => exact h.reset m
      | finish => rw [h.finish, Digesting.feed]
    rw [List.foldl_cons, ← ih, ← hcall]
    rfl

/-- A digest ends with the value of what its user fed to it since it last began. -/
theorem Isolated.finish [Reusable α] {l : Lending σ α} {steps : List (Op σ Digesting)}
    (hl : Isolated (after []) l steps) (h : Digests after value) {slot : σ}
    {calls : List Digesting} (hcalls : since slot steps = some calls) :
    (l.apply (.use slot .finish)).1 = .answer (some (value (Digesting.fed calls))) := by
  rw [hl.reply_held hcalls, privately_after h, h.finish, Digesting.fed]

end Digests

theorem recycles_keyed (key : Bytes) :
    Recycles (Hmac.Stream.keyed key) fun mac => mac.reset = .keyed key where
  begins := Hmac.Stream.reset_keyed key
  call mac call h := by cases call <;> exact h
  reset mac h := h

theorem recycles_plain : Recycles Sha256.Stream.start fun _ => True where
  begins := trivial
  call _ _ _ := trivial
  reset _ _ := rfl

/-- **The users of a pool do not notice each other**, for buffers, keyed digests and plain digests,
however many objects the pool keeps and however many are in use. A digest that is brought to its
end is that of what its user fed to it. -/
theorem users_apart (σ : Type) [DecidableEq σ] (maxIdle : Nat) :
    (∀ (capacity : Nat) (steps : List (Op σ Buffer.Op)),
      Isolated (Buffer.ofCapacity capacity) (reached (Buffer.ofCapacity capacity) maxIdle steps)
        steps) ∧
    (∀ (secret : Secret) (steps : List (Op σ Digesting)),
      Isolated (Hmac.Stream.keyed secret.bytes)
        (reached (Hmac.Stream.keyed secret.bytes) maxIdle steps) steps ∧
      ∀ slot calls, since slot steps = some calls →
        ((reached (Hmac.Stream.keyed secret.bytes) maxIdle steps).apply (.use slot .finish)).1 =
          .answer (some (Hmac.tag secret.bytes (Digesting.fed calls)))) ∧
    (∀ steps : List (Op σ Digesting),
      Isolated Sha256.Stream.start (reached Sha256.Stream.start maxIdle steps) steps ∧
      ∀ slot calls, since slot steps = some calls →
        ((reached Sha256.Stream.start maxIdle steps).apply (.use slot .finish)).1 =
          .answer (some (Sha256.digest (Digesting.fed calls)))) := by
  refine ⟨fun capacity steps => isolated_reached (recycles_buffer capacity) maxIdle steps,
    fun secret steps => ?keyed, fun steps => ?plain⟩
  case keyed =>
    have hkeyed := isolated_reached (recycles_keyed secret.bytes) maxIdle steps
    refine ⟨hkeyed, fun slot calls hcalls => ?_⟩
    rw [Hmac.Stream.keyed_eq] at hkeyed ⊢
    exact hkeyed.finish (digests_keyed secret.bytes) hcalls
  case plain =>
    have hplain := isolated_reached recycles_plain maxIdle steps
    exact ⟨hplain, fun slot calls hcalls => hplain.finish digests_plain hcalls⟩

end Lending
end Passage
