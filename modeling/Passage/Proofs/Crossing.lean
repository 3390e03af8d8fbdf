import Passage.Proofs.Exchange

/- What a token or a challenge of one identity is worth to another.

   1. A token is written for one identity and shown by another that is `Apart`, of
      another host or another written address. It is good exactly if its level and its
      expiry allow it and two messages have one tag: the message that was signed and the
      one that is checked (`Token.ok_crossing_iff`).
   2. The nonce and the proof of a challenge come back from another identity, apart or of
      another level. The proof is taken for right exactly if two messages have one tag
      (`Challenge.proof_crossing_iff`).

   In both cases the two messages are different, since each tells host, octets, level and
   rest. So whoever crosses over has found a collision, and the statements name it, of two
   engines (`TokenCollides`, `ProofCollides`) as of two checks. -/
namespace Passage

/-- A signed token that is shown by another identity. -/
theorem Token.ok_crossing_iff (key : Bytes) (now : Instant) {a b : Identity} (hab : a.Apart b)
    {expires : Nat} (h : expires < wordLimit) :
    firstUnmet (requirements key now b (signed key a expires)) = .ok () ↔
      b.level ≤ a.level ∧ max 0 (now.toNanos / (billion : Int)) ≤ expires ∧
        Hmac.Collision key (message a (LittleEndian.encode 8 expires))
          (message { b with level := a.level } (LittleEndian.encode 8 expires)) := by
  have hd : LittleEndian.decode (LittleEndian.encode 8 expires) = expires :=
    LittleEndian.decode_encode h
  -- The level that is checked is the token's own, so only host and octets can differ.
  have hm : b.host ++ b.address.octets ++ [a.level] ++ LittleEndian.encode 8 expires =
      message { b with level := a.level } (LittleEndian.encode 8 expires) := rfl
  have hne : message a (LittleEndian.encode 8 expires) ≠
      message { b with level := a.level } (LittleEndian.encode 8 expires) :=
    Identity.Apart.material_append_ne (b := { b with level := a.level }) hab rfl
  rw [signed, fields, ← text, firstUnmet_text key now b a.level (LittleEndian.length_encode ..)
    (Hmac.length_tag ..), hd, hm]
  simp only [firstUnmet_cons_ok_iff, firstUnmet_nil_ok, and_true]
  constructor
  · rintro ⟨hlevel, htime, htag⟩
    exact ⟨hlevel, htime, hne, htag⟩
  · rintro ⟨hlevel, htime, hcollision⟩
    exact ⟨hlevel, htime, hcollision.tag_eq⟩

/-- A solution with the nonce and the proof of a challenge that was handed to another identity. -/
theorem Challenge.proof_crossing_iff (key : Bytes) (now : Instant) {a b : Identity}
    (hab : a.Apart b ∨ a.level ≠ b.level) {expires : Nat} (h : expires < wordLimit) {number : Bytes}
    (hnumber : number ≠ []) :
    firstUnmet (requirements key now b (handed key a expires number).text) ≠ .error .invalidHmac ↔
      Hmac.Collision key (message a (nonce expires)) (message b (nonce expires)) := by
  have hne : message a (nonce expires) ≠ message b (nonce expires) := by
    rcases hab with hapart | hlevel
    · exact hapart.material_append_ne rfl
    · intro hm
      exact hlevel ((Identity.material_append_eq_iff a b rfl).mp hm).2.2.1
  rw [firstUnmet_handed key now a b h, firstUnmet_cons, if_pos hnumber, firstUnmet_cons]
  constructor
  · intro hpassed
    by_cases htag : Hmac.tag key (message a (nonce expires)) = Hmac.tag key (message b (nonce expires))
    · exact ⟨hne, htag⟩
    · rw [if_neg htag] at hpassed
      exact absurd rfl hpassed
  · intro hcollision hrefused
    rw [if_pos hcollision.tag_eq] at hrefused
    -- Behind the proof only the time and the work are looked at, and they have other causes.
    have hcause := firstUnmet_cause hrefused
    simp at hcause

namespace Engine.Session

/-- A token that `first` issues to `a` and `b` shows to `second` is good exactly if its level and its
expiry allow it and the message that was signed collides with the one that is checked. -/
def TokenCollides (secret : Secret) (first second : Session) (a b : Identity) (lifetime : Duration)
    (out : Buffer) : Prop :=
  ∃ expires token out' outcome,
    expires = first.clock.expiresAt lifetime ∧
    (first.apply (.issue a lifetime out)).1 = .issued (.ok ()) out' ∧
    out'.readable = out.readable ++ token ∧
    (second.apply (.verify b token)).1 = .verified outcome ∧
    (outcome = .ok () ↔ b.level ≤ a.level ∧
      max 0 (second.clock.now.toNanos / (billion : Int)) ≤ expires ∧
      Hmac.Collision secret.bytes (Token.message a (LittleEndian.encode 8 expires))
        (Token.message { b with level := a.level } (LittleEndian.encode 8 expires)))

/-- The proof of a challenge that `first` offers to `a` and `b` hands in to `second` is taken for
right exactly if the message that was signed collides with the one that is checked. -/
def ProofCollides (secret : Secret) (first second : Session) (a b : Identity) (slot slot' : Nat)
    (level : Level) (body number : Bytes) : Prop :=
  ∃ expires nonce proof outcome response,
    first.Offers slot a body level expires nonce proof ∧
    (second.apply (.run slot' ⟨.post, Challenge.Solution.text ⟨nonce, proof, number⟩, b⟩)).1 =
      .ran outcome response ∧
    (outcome ≠ .error .invalidHmac ↔
      Hmac.Collision secret.bytes (Challenge.message a nonce) (Challenge.message b nonce))

namespace Sound
variable {secret : Secret} {levels levels' : LevelTable} {first second : Session} {a b : Identity}

theorem tokenCollides (hfirst : first.Sound secret levels) (hsecond : second.Sound secret levels')
    (hab : a.Apart b) (lifetime : Duration) {out : Buffer} (hout : out.Sound)
    (hroom : Token.size ≤ out.room) : TokenCollides secret first second a b lifetime out := by
  obtain ⟨out', hissue, hread⟩ := hfirst.issues a lifetime hout hroom
  exact ⟨_, _, out', _, rfl, hissue, hread, hsecond.reply_verify b _,
    Token.ok_crossing_iff secret.bytes second.clock.now hab (Clock.expiresAt_lt first.clock lifetime)⟩

theorem proofCollides (hfirst : first.Sound secret levels) (hsecond : second.Sound secret levels')
    {slot slot' : Nat} (hheld : (first.lending.object? slot).isSome)
    (hheld' : (second.lending.object? slot').isSome)
    (hpow : (levels.entry a.level).policy = .proofOfWork)
    (hpow' : (levels'.entry b.level).policy = .proofOfWork)
    (hab : a.Apart b ∨ a.level ≠ b.level) (body : Bytes) {number : Bytes} (hnumber : number ≠ []) :
    ProofCollides secret first second a b slot slot' (levels.entry a.level) body number := by
  have hlt := Clock.expiresAt_lt first.clock (levels.entry a.level).lifetime
  have hoffers := hfirst.offers hheld hpow body rfl
  obtain ⟨response, hpost, -⟩ := hsecond.reply_solution hheld' hpow'
    (Challenge.handed secret.bytes a (first.clock.expiresAt (levels.entry a.level).lifetime)
      number).text
  exact ⟨_, _, _, _, response, hoffers, hpost,
    Challenge.proof_crossing_iff secret.bytes second.clock.now hab hlt hnumber⟩

end Sound

/-- **What is made for one identity is worth something to another only by a collision**, for a
message tells the host, the address octets, the level and what is signed with them. -/
theorem crossing_collides (secret : Secret) (levels levels' : LevelTable) (clock clock' : Clock)
    (calls calls' : List Op) (a b : Identity) :
    (∀ (lifetime : Duration) (capacity : Nat) (ops : List Buffer.Op),
      Token.size ≤ ((Buffer.ofCapacity capacity).run ops).room → a.Apart b →
      TokenCollides secret (reached secret levels clock calls) (reached secret levels' clock' calls')
        a b lifetime ((Buffer.ofCapacity capacity).run ops)) ∧
    (∀ (slot slot' : Nat) (body number : Bytes),
      ((reached secret levels clock calls).lending.object? slot).isSome →
      ((reached secret levels' clock' calls').lending.object? slot').isSome →
      (levels.entry a.level).policy = .proofOfWork →
      (levels'.entry b.level).policy = .proofOfWork →
      a.Apart b ∨ a.level ≠ b.level → number ≠ [] →
      ProofCollides secret (reached secret levels clock calls) (reached secret levels' clock' calls')
        a b slot slot' (levels.entry a.level) body number) ∧
    Identity.Told Token.message 8 a b ∧ Identity.Told Challenge.message 16 a b ∧
    (a.address.octets = b.address.octets ↔
      a.address = b.address ∨ a.address.MapsTo b.address ∨ b.address.MapsTo a.address) := by
  have hfirst := sound_reached secret levels clock calls
  have hsecond := sound_reached secret levels' clock' calls'
  refine ⟨?token, ?challenge, Identity.told_material 8 a b, Identity.told_material 16 a b,
    Address.octets_eq_iff _ _⟩
  case token =>
    intro lifetime capacity ops hroom hab
    exact hfirst.tokenCollides hsecond hab lifetime (Buffer.sound_run capacity ops) hroom
  case challenge =>
    intro slot slot' body number hheld hheld' hpow hpow' hab hnumber
    exact hfirst.proofCollides hsecond hheld hheld' hpow hpow' hab body hnumber

def Sample.neighbour : Identity := { Sample.identity with host := [98] }

/-- What was made for one host is refused at another: there is no collision. -/
theorem crossing_refused :
    (∃ token out outcome,
      ((reached Sample.secret Sample.levels Sample.clock [.acquire 0]).apply
        (.issue Sample.identity Sample.hour (.ofCapacity Token.size))).1 = .issued (.ok ()) out ∧
      out.readable = token ∧
      ((reached Sample.secret Sample.levels Sample.clock [.acquire 0]).apply
        (.verify Sample.neighbour token)).1 = .verified outcome ∧ outcome ≠ .ok ()) ∧
    ∃ response nonce proof response',
      ((reached Sample.secret Sample.levels Sample.clock [.acquire 0]).apply
        (.run 0 ⟨.get, [], Sample.identity⟩)).1 = .ran (.ok ()) response ∧
      response.body.readable = Challenge.shown .default nonce proof ∧
      ((reached Sample.secret Sample.levels Sample.clock [.acquire 0]).apply (.run 0
        ⟨.post, Challenge.Solution.text ⟨nonce, proof, Bytes.ofText "39469"⟩,
          Sample.neighbour⟩)).1 = .ran (.error .invalidHmac) response' := by
  have hapart : Sample.identity.Apart Sample.neighbour := .inl (by decide)
  obtain ⟨htoken, hproof, -⟩ := crossing_collides Sample.secret Sample.levels Sample.levels
    Sample.clock Sample.clock [.acquire 0] [.acquire 0] Sample.identity Sample.neighbour
  constructor
  · obtain ⟨expires, token, out, outcome, hexpires, hissue, hread, hverify, hiff⟩ :=
      htoken Sample.hour Token.size [] (by decide) hapart
    refine ⟨token, out, outcome, hissue, hread, hverify, fun hok => ?_⟩
    have htag := (hiff.mp hok).2.2.tag_eq
    rw [hexpires] at htag
    revert htag
    decide +kernel
  · obtain ⟨expires, nonce, proof, outcome, response', hoffers, hpost, hiff⟩ :=
      hproof 0 0 [] (Bytes.ofText "39469") rfl rfl rfl rfl (.inl hapart) (by decide)
    obtain ⟨response, hget, -, hshown⟩ := hoffers.answer
    have hrefused : outcome = .error .invalidHmac := by
      refine Classical.byContradiction fun hpassed => ?_
      have htag := (hiff.mp hpassed).tag_eq
      rw [hoffers.nonce_eq, hoffers.expires_eq] at htag
      revert htag
      decide +kernel
    rw [hrefused] at hpost
    exact ⟨response, nonce, proof, response', hget, hshown, hpost⟩

end Engine.Session
end Passage
