import Passage.Proofs.Nanoseconds
import Passage.Proofs.Places
import Passage.Proofs.Readiness
import Passage.Proofs.Requirements

/- A token check comes to what its requirements say.

   `Token.requirements` names what a token must meet by the places of its bytes,
   with no cursor, no buffer and no stream. `Comes` relates a part of a check, run at
   a desk, to an outcome, and says that the desk is left fit for reuse; it is built
   up part by part in the order of the check (`Comes.bind`, `comes_check`). -/
namespace Passage.Token

/-- What a token must meet for an identity under a key, in the order in which it is noticed. -/
def requirements (key : Bytes) (now : Instant) (id : Identity) (token : Bytes) :
    List Requirement :=
  let level := (Hex.bytes (token.extract 0 2)).headD 0
  let expiry := Hex.bytes (token.extract 3 19)
  [⟨token ≠ [], .empty⟩,
   ⟨token.length = 84, .invalidLength⟩,
   ⟨Hex.IsLower (token.extract 0 2), .malformed⟩,
   ⟨id.level ≤ level, .levelTooLow⟩,
   ⟨token[2]? = some separator, .malformed⟩,
   ⟨Hex.IsLower (token.extract 3 19), .malformed⟩,
   ⟨max 0 (now.toNanos / (billion : Int)) ≤ LittleEndian.decode expiry, .expired⟩,
   ⟨token[19]? = some separator, .malformed⟩,
   ⟨Hex.IsLower (token.extract 20 84), .malformed⟩,
   ⟨Hex.bytes (token.extract 20 84) =
      Hmac.tag key (id.host ++ id.address.octets ++ [level] ++ expiry), .invalidHmac⟩]

/-! Parts of a check. -/

/-- The desk at which `fed` was fed to the tag, `laid` was decoded with `n` cells left, and the
token was read up to `p`. -/
def Desk.at (key fed laid : Bytes) (n : Nat) (token : Bytes) (p : Nat) : Desk :=
  ⟨.after key fed, .holding laid 0 n, ⟨token, p⟩⟩

/-- What is borrowed for a desk can be given back as new. -/
def Desk.Spent (key : Bytes) (desk : Desk) : Prop :=
  desk.mac.reset = .keyed key ∧ desk.scratch.Sound ∧ desk.scratch.capacity = scratchCapacity

section Spent
variable {key fed laid bs token : Bytes} {n k p : Nat}

theorem spent_at (h : laid.length + n = scratchCapacity) :
    (Desk.at key fed laid n token p).Spent key :=
  ⟨Hmac.Stream.reset_after key fed, Buffer.sound_holding (Nat.zero_le _),
    (Buffer.capacity_holding laid 0 n).trans h⟩

theorem room_after (h : laid.length + n = scratchCapacity) (hb : bs.length = k) (hk : k ≤ n) :
    (laid ++ bs).length + (n - k) = scratchCapacity := by
  rw [List.length_append, hb]
  omega

theorem spent_reserved (h : laid.length + n = scratchCapacity) (hk : k ≤ n) :
    (Desk.at key fed (laid ++ List.replicate k 0) (n - k) token p).Spent key :=
  spent_at (room_after h List.length_replicate hk)

end Spent

/-- Run at `desk`, the check comes to `outcome` and leaves a desk that can be given back. -/
def Comes (key : Bytes) (desk : Desk) (check : Check Unit) (outcome : Outcome) : Prop :=
  ∃ desk', check.run.run desk = (outcome, desk') ∧ desk'.Spent key

theorem run_bind {α β : Type} (x : Check α) (f : α → Check β) (desk : Desk) :
    (x >>= f).run.run desk = match x.run.run desk with
      | (.ok a, desk') => (f a).run.run desk'
      | (.error r, desk') => (.error r, desk') := by
  rw [ExceptT.run_bind, StateT.run_bind]
  cases x.run.run desk with
  | mk a desk' => cases a <;> rfl

namespace Comes
variable {α : Type} {key : Bytes} {desk desk₁ desk₂ : Desk} {x : Check α} {f : α → Check Unit}
  {a : α} {r : Rejection} {p : Prop} [Decidable p] {rest : List Requirement} {outcome : Outcome}

theorem bind_ok (hx : x.run.run desk = (.ok a, desk₁)) (hf : Comes key desk₁ (f a) outcome) :
    Comes key desk (x >>= f) outcome := by
  obtain ⟨desk', he, hs⟩ := hf
  exact ⟨desk', by rw [run_bind, hx]; exact he, hs⟩

/-- A part that meets one requirement or fails for it. -/
theorem bind (hx : x.run.run desk = if p then (.ok a, desk₁) else (.error r, desk₂))
    (hs : desk₂.Spent key) (hf : p → Comes key desk₁ (f a) (firstUnmet rest)) :
    Comes key desk (x >>= f) (firstUnmet (⟨p, r⟩ :: rest)) := by
  rw [firstUnmet_cons]
  by_cases hp : p
  · rw [if_pos hp] at hx ⊢
    exact bind_ok hx (hf hp)
  · rw [if_neg hp] at hx ⊢
    exact ⟨desk₂, by rw [run_bind, hx], hs⟩

theorem last {x : Check Unit} (hx : x.run.run desk = if p then (.ok (), desk₁) else (.error r, desk₁))
    (hs : desk₁.Spent key) : Comes key desk x (firstUnmet [⟨p, r⟩]) := by
  refine ⟨desk₁, ?_, hs⟩
  rw [hx, firstUnmet_cons, firstUnmet]
  split <;> rfl

end Comes

section Parts
variable {key fed laid token : Bytes} {n p : Nat}

theorem run_feed (bs : Bytes) : (feed bs).run.run (Desk.at key fed laid n token p) =
    (.ok (), Desk.at key (fed ++ bs) laid n token p) := by
  show ((Except.ok () : Outcome), { Desk.at key fed laid n token p with
    mac := (Hmac.Stream.after key fed).absorb bs }) = _
  rw [Hmac.Stream.absorb_after]
  rfl

theorem run_refuseIf {c : Bool} {q : Prop} [Decidable q] (hq : c = true ↔ ¬q) (r : Rejection)
    (desk : Desk) : (refuseIf c r).run.run desk =
      if q then (.ok (), desk) else (.error r, desk) := by
  by_cases h : q
  · rw [if_pos h, show c = false by simpa [h] using hq]
    rfl
  · rw [if_neg h, hq.mpr h]
    rfl

theorem run_tag : tag.run.run (Desk.at key fed laid n token p) =
    (.ok (Hmac.tag key fed), Desk.at key [] laid n token p) := by
  show ((Except.ok ((Hmac.Stream.after key fed).finish.1) : Except Rejection Bytes),
    { Desk.at key fed laid n token p with mac := (Hmac.Stream.after key fed).finish.2 }) = _
  rw [Hmac.Stream.finish_after, Hmac.Stream.keyed_eq]
  rfl

theorem run_read {k : Nat} (h : p + k ≤ token.length) :
    (read k).run.run (Desk.at key fed laid n token p) =
      (.ok (token.extract p (p + k)), Desk.at key fed laid n token (p + k)) := by
  simp only [read, ExceptT.run_mk, StateT.run, Desk.at, Cursor.take_of_le h]

theorem run_readSeparator (h : p < token.length) :
    readSeparator.run.run (Desk.at key fed laid n token p) =
      if token[p]? = some separator then (.ok (), Desk.at key fed laid n token (p + 1))
      else (.error .malformed, Desk.at key fed laid n token (p + 1)) := by
  show (((⟨token, p⟩ : Cursor).separator separator).1,
    { Desk.at key fed laid n token p with text := ((⟨token, p⟩ : Cursor).separator separator).2 }) = _
  rw [Cursor.separator_of_lt separator h]
  split <;> rfl

theorem run_reserve {k : Nat} (h : k ≤ n) :
    (reserve k).run.run (Desk.at key fed laid n token p) =
      (.ok (), Desk.at key fed (laid ++ List.replicate k 0) (n - k) token p) := by
  simp only [reserve, ExceptT.run_mk, StateT.run, Desk.at, Buffer.reserve_holding, if_pos h]

/-- Decoded bytes take the place of the cells reserved for them. -/
theorem run_lay {bs area : Bytes} (h : area.length = bs.length) :
    (lay bs).run.run (Desk.at key fed (laid ++ area) n token p) =
      (.ok (), Desk.at key fed (laid ++ bs) n token p) := by
  have hf := Buffer.fill_holding laid 0 n area bs
  rw [h, List.take_length, List.drop_eq_nil_of_le (Nat.le_of_eq h), List.append_nil] at hf
  show ((Except.ok () : Outcome), { Desk.at key fed (laid ++ area) n token p with
    scratch := (Buffer.holding (laid ++ area) 0 n).fill bs.length bs }) = _
  rw [hf]
  rfl

/-- A field of `2 * k` digits is read as the bytes that they stand for. -/
theorem run_field {k : Nat} (hp : p + 2 * k ≤ token.length) (hk : k ≤ n) :
    (field (2 * k)).run.run (Desk.at key fed laid n token p) =
      if Hex.IsLower (token.extract p (p + 2 * k)) then
        (.ok (Hex.bytes (token.extract p (p + 2 * k))),
          Desk.at key fed (laid ++ Hex.bytes (token.extract p (p + 2 * k))) (n - k) token (p + 2 * k))
      else (.error .malformed,
        Desk.at key fed (laid ++ List.replicate k 0) (n - k) token (p + 2 * k)) := by
  have hl : (token.extract p (p + 2 * k)).length = 2 * k := by
    rw [Bytes.length_extract hp]
    omega
  have hh : 2 * k / 2 = k := Nat.mul_div_cancel_left k (by decide)
  have hb : (List.replicate k (0 : UInt8)).length = (Hex.bytes (token.extract p (p + 2 * k))).length := by
    rw [Hex.length_bytes, hl, hh, List.length_replicate]
  -- The cells are reserved before the digits are looked at, so a refusal leaves them blank.
  rw [field, run_bind, run_read hp]
  simp only [hl, hh]
  rw [run_bind, run_reserve hk, Hex.decodeExactly?_eq]
  by_cases hx : Hex.IsLower (token.extract p (p + 2 * k))
  · simp only [hl, hx, and_self, if_true]
    rw [run_bind, run_lay hb]
    rfl
  · simp only [hx, and_false, if_false]
    rfl

theorem run_byteField (hp : p + 2 ≤ token.length) (hn : 1 ≤ n) :
    byteField.run.run (Desk.at key fed laid n token p) =
      if Hex.IsLower (token.extract p (p + 2)) then
        (.ok ((Hex.bytes (token.extract p (p + 2))).headD 0),
          Desk.at key fed (laid ++ Hex.bytes (token.extract p (p + 2))) (n - 1) token (p + 2))
      else (.error .malformed,
        Desk.at key fed (laid ++ List.replicate 1 0) (n - 1) token (p + 2)) := by
  have hl : (Hex.bytes (token.extract p (p + 2))).length = 1 := by
    rw [Hex.length_bytes, Bytes.length_extract hp]
    omega
  obtain ⟨level, hb⟩ := List.length_eq_one_iff.mp hl
  rw [byteField, run_bind, show levelDigits = 2 * 1 from rfl, run_field hp hn]
  by_cases hx : Hex.IsLower (token.extract p (p + 2))
  · simp only [Nat.mul_one, hx, if_true, hb]
    rfl
  · simp only [Nat.mul_one, hx, if_false]

end Parts

/-! The whole check. -/

/-- A check of a token of the right size comes to the first of the other requirements that the
token does not meet. -/
theorem comes_check (key : Bytes) (clock : Clock) (id : Identity) {token : Bytes}
    (hl : token.length = 84) :
    Comes key (Desk.at key [] [] scratchCapacity token 0) (check clock.unixSeconds id)
      (firstUnmet ((requirements key clock.now id token).drop 2)) := by
  have h1 : (Hex.bytes (token.extract 0 2)).length = 1 := by
    rw [Hex.length_bytes, Bytes.length_extract (by omega)]
  have h2 : (Hex.bytes (token.extract 3 19)).length = 8 := by
    rw [Hex.length_bytes, Bytes.length_extract (by omega)]
  have h3 : (Hex.bytes (token.extract 20 84)).length = 32 := by
    rw [Hex.length_bytes, Bytes.length_extract (by omega)]
  -- Scratch room is never short: the fields take 1, 8 and 32 of its 128 cells.
  have r0 : ([] : Bytes).length + scratchCapacity = scratchCapacity := rfl
  have r1 := room_after r0 h1 (by decide)
  have r2 := room_after r1 h2 (by decide)
  have r3 := room_after r2 h3 (by decide)
  rw [check]
  refine Comes.bind_ok (run_feed id.origin) ?_
  refine Comes.bind (run_byteField (by omega) (by decide)) (spent_reserved r0 (by decide)) fun _ => ?_
  refine Comes.bind (run_refuseIf (by simp) _ _) (spent_at r1) fun _ => ?_
  refine Comes.bind_ok (run_feed _) ?_
  refine Comes.bind (run_readSeparator (by omega)) (spent_at r1) fun _ => ?_
  refine Comes.bind (run_field (k := 8) (by omega) (by decide)) (spent_reserved r1 (by decide)) fun _ => ?_
  refine Comes.bind (run_refuseIf ?_ _ _) (spent_at r2) fun _ => ?_
  · rw [← Clock.unixSeconds_eq]
    simp
  refine Comes.bind_ok (run_feed _) ?_
  refine Comes.bind (run_readSeparator (by omega)) (spent_at r2) fun _ => ?_
  refine Comes.bind_ok run_tag ?_
  refine Comes.bind (run_field (k := 32) (by omega) (by decide)) (spent_reserved r2 (by decide)) fun _ => ?_
  exact Comes.last (run_refuseIf (decide_eq_true_iff.trans (not_congr eq_comm)) _ _) (spent_at r3)

end Passage.Token

namespace Passage.Engine.Ready
variable {secret : Secret} {levels : LevelTable} {e : Engine}

theorem verify (h : e.Ready secret levels) (clock : Clock) (id : Identity) (token : Bytes) :
    Gives secret levels (e.verify clock id token)
      (firstUnmet (Token.requirements secret.bytes clock.now id token)) := by
  rw [Engine.verify]
  refine Gives.require (fun h0 => ?_) fun h0 => ?_
  · rw [if_pos (List.isEmpty_iff.mpr (Decidable.not_not.mp h0))]
    exact ⟨e, rfl, h⟩
  rw [if_neg (fun he => h0 (List.isEmpty_iff.mp he))]
  refine Gives.require (fun hl => ?_) fun hl => ?_
  · rw [if_pos (show token.length ≠ Token.size from hl)]
    exact ⟨e, rfl, h⟩
  rw [if_neg (fun hne : token.length ≠ Token.size => hne hl)]
  obtain ⟨hroom, hscratch⟩ := h.scratch.acquire
  obtain ⟨hmac, hkeyed⟩ := h.keyed.acquire
  obtain ⟨desk, hrun, hreset, hsound, hcap⟩ := Token.comes_check secret.bytes clock id hl
  have hstart : (⟨.keyed secret.bytes, .ofCapacity scratchCapacity, .ofBytes token⟩ : Token.Desk) =
      .at secret.bytes [] [] scratchCapacity token 0 := by
    rw [Hmac.Stream.keyed_eq]
    rfl
  simp only [hroom, hmac, hstart, hrun]
  refine ⟨_, rfl, ?_⟩
  exact { h with
    keyed := hkeyed.release hreset
    scratch := hscratch.release (by rw [← hcap]; exact hsound.clear_eq) }

end Passage.Engine.Ready
