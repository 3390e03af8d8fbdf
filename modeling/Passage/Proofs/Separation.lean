import Passage.Proofs.Messages
import Passage.Proofs.Sessions
import Passage.Proofs.TokenText

/- How far a challenge's proof is kept apart from a token's tag.

   Both are tags under one key, of messages without any mark of their kind: host,
   address, level and eight bytes for a token; host, address, level and sixteen digits
   for a challenge. Where the messages are of one length the token's host is eight
   bytes longer, and its address, its level and its expiry lie across the address, the
   level and the nonce of the challenge.

   1. `message_eq_iff` — the two messages are one exactly if the fields lie across each
      other (`Straddles`).
   2. `not_isLower_expiry` — the expiry of such a token is made of digits, and no clock
      computes an expiry like that. So no token that was issued shares its message with
      a challenge.
   3. But a check takes any expiry from the token. It accepts a challenge's proof for a
      tag, in time, whenever the two messages have one tag, and they have where the
      fields lie across each other.
   4. `exists_straddles` — such fields exist for every challenge: what a client is told
      without any work is a token of another identity, of a level never granted. -/
namespace Passage

/-- The fields of a token's message lie across those of a challenge's. -/
structure Straddles (a : Identity) (expiry : Bytes) (b : Identity) (nonce : Bytes) : Prop where
  host : a.host = b.host ++ b.address.octets.take 8
  octets : a.address.octets = b.address.octets.drop 8 ++ b.level :: nonce.take 7
  level : nonce[7]? = some a.level
  expiry : expiry = nonce.drop 8

/-- A nonce by its first seven digits, its eighth and the others. -/
theorem nonce_split {nonce : Bytes} {c : UInt8} (h : nonce[7]? = some c) :
    nonce = nonce.take 7 ++ [c] ++ nonce.drop 8 := by
  obtain ⟨hlt, rfl⟩ := List.getElem?_eq_some_iff.mp h
  rw [List.append_assoc, List.singleton_append, ← List.drop_eq_getElem_cons hlt, List.take_append_drop]

/-- A challenge's message, cut where a token's fields would end. -/
theorem Challenge.message_split (b : Identity) {nonce : Bytes} {c : UInt8}
    (h : nonce[7]? = some c) : message b nonce =
      (b.host ++ b.address.octets.take 8) ++ (b.address.octets.drop 8 ++ b.level :: nonce.take 7) ++
        [c] ++ nonce.drop 8 := by
  calc message b nonce
      = b.host ++ b.address.octets ++ [b.level] ++ nonce := rfl
    _ = b.host ++ (b.address.octets.take 8 ++ b.address.octets.drop 8) ++ [b.level] ++
          (nonce.take 7 ++ [c] ++ nonce.drop 8) := by
        rw [List.take_append_drop, ← nonce_split h]
    _ = _ := by simp only [List.append_assoc, List.cons_append, List.nil_append]

/-- The two messages are one exactly if the fields lie across each other. -/
theorem message_eq_iff (a b : Identity) {expiry nonce : Bytes} (he : expiry.length = 8)
    (hn : nonce.length = 16) :
    Token.message a expiry = Challenge.message b nonce ↔ Straddles a expiry b nonce := by
  have ha := a.address.length_octets
  have hb := b.address.length_octets
  have h7 : nonce[7]? = some nonce[7] := List.getElem?_eq_getElem (by omega)
  rw [Challenge.message_split b h7]
  constructor
  · intro h
    -- From the right all fields have fixed widths, so they peel off one by one.
    obtain ⟨h, hexpiry⟩ := List.append_inj' h (by rw [he, List.length_drop, hn])
    obtain ⟨h, hlevel⟩ := List.append_inj' h rfl
    obtain ⟨hhost, hoctets⟩ := List.append_inj' h (by
      rw [ha, List.length_append, List.length_drop, hb, List.length_cons, List.length_take, hn]
      rfl)
    rw [List.cons.injEq] at hlevel
    exact ⟨hhost, hoctets, by rw [h7, hlevel.1], hexpiry⟩
  · intro h
    have hlevel : nonce[7] = a.level := Option.some.inj (h7.symm.trans h.level)
    rw [hlevel, ← h.host, ← h.octets, ← h.expiry]
    rfl

theorem exists_straddles (b : Identity) {nonce : Bytes} (hn : nonce.length = 16) :
    ∃ a e, a.host.length = b.host.length + 8 ∧
      Straddles a (LittleEndian.encode 8 e) b nonce := by
  have hb := b.address.length_octets
  have hlen : (b.address.octets.drop 8 ++ b.level :: nonce.take 7).length = 16 := by
    rw [List.length_append, List.length_drop, hb, List.length_cons, List.length_take, hn]
    rfl
  have hexpiry : (nonce.drop 8).length = 8 := by rw [List.length_drop, hn]
  refine ⟨⟨.v6 ⟨(b.address.octets.drop 8 ++ b.level :: nonce.take 7).toArray, hlen⟩,
    b.host ++ b.address.octets.take 8, nonce[7]⟩, LittleEndian.decode (nonce.drop 8), ?_, rfl, ?_,
    List.getElem?_eq_getElem (by omega), ?_⟩
  · rw [List.length_append, List.length_take, hb]
    rfl
  · rfl
  · have he := LittleEndian.encode_decode (nonce.drop 8)
    rwa [hexpiry] at he

/-! Expiries of clocks are not made of digits. -/

theorem LittleEndian.zero_mem_encode {width n : Nat} (h : n < 256 ^ width) :
    0 ∈ encode (width + 1) n := by
  induction width generalizing n with
  | zero =>
    rw [Nat.pow_zero, Nat.lt_one_iff] at h
    subst h
    decide
  | succ width ih =>
    rw [encode]
    refine List.mem_cons_of_mem _ (ih ?_)
    rw [Nat.pow_succ] at h
    omega

theorem Clock.expiresAt_cases (c : Clock) (d : Duration) :
    c.expiresAt d < 256 ^ 7 ∨ c.expiresAt d = endless := by
  rw [expiresAt]
  cases c.now.after? d.capped with
  | none => exact .inr rfl
  | some t =>
    have h := t.seconds_le
    left
    show t.seconds.toNat < 72057594037927936
    omega

/-- No expiry of a clock is made of digits: its last byte is 0, or all its bytes are 255. -/
theorem not_isLower_expiry (c : Clock) (d : Duration) :
    ¬Hex.IsLower (LittleEndian.encode 8 (c.expiresAt d)) := by
  intro hlower
  rcases c.expiresAt_cases d with h | h
  · exact absurd (hlower 0 (LittleEndian.zero_mem_encode h)) (by decide)
  · rw [h] at hlower
    exact absurd (hlower 255 List.mem_cons_self) (by decide)

/-- An issued token and a challenge never share a message. -/
theorem issued_message_ne (a b : Identity) (c : Clock) (d : Duration) (x : Nat) :
    Token.message a (LittleEndian.encode 8 (c.expiresAt d)) ≠
      Challenge.message b (Challenge.nonce x) := by
  intro h
  have hs := (message_eq_iff a b (LittleEndian.length_encode ..) (Challenge.length_nonce x)).mp h
  refine not_isLower_expiry c d ?_
  rw [hs.expiry]
  exact fun c hc => Hex.isLower_encode _ c (List.mem_of_mem_drop hc)

/-! Proofs in the place of tags. -/

/-- Any tag, shown at its token's own level: the expiry decides, then the tag. -/
theorem Token.ok_of_text (key : Bytes) (now : Instant) (a : Identity) {expiry tag : Bytes}
    (he : expiry.length = 8) (ht : tag.length = 32) :
    firstUnmet (requirements key now a (text a.level expiry tag)) = .ok () ↔
      max 0 (now.toNanos / (billion : Int)) ≤ LittleEndian.decode expiry ∧
        tag = Hmac.tag key (message a expiry) := by
  have hm : message a expiry = a.host ++ a.address.octets ++ [a.level] ++ expiry := rfl
  rw [firstUnmet_text key now a a.level he ht, hm, firstUnmet_ok_iff]
  simp only [List.forall_mem_cons, List.not_mem_nil, false_implies, implies_true, and_true,
    decide_eq_true_eq, UInt8.le_refl, true_and]

namespace Engine.Session

/-- **Tags of tokens and proofs of challenges are kept apart except where their fields lie across
each other**, which happens to every challenge, but to no token that was issued. -/
theorem separation (secret : Secret) (levels : LevelTable) (clock : Clock) (calls : List Op)
    (b : Identity) (x : Nat) :
    (∀ (a : Identity) (e : Nat),
      (Token.message a (LittleEndian.encode 8 e) = Challenge.message b (Challenge.nonce x) ↔
        Straddles a (LittleEndian.encode 8 e) b (Challenge.nonce x)) ∧
      ∃ outcome,
        ((reached secret levels clock calls).apply (.verify a (Token.text a.level
          (LittleEndian.encode 8 e)
          (Hmac.tag secret.bytes (Challenge.message b (Challenge.nonce x)))))).1 =
            .verified outcome ∧
        (outcome = .ok () ↔
          max 0 ((reached secret levels clock calls).clock.now.toNanos / (billion : Int)) ≤
              LittleEndian.decode (LittleEndian.encode 8 e) ∧
            Hmac.tag secret.bytes (Challenge.message b (Challenge.nonce x)) =
              Hmac.tag secret.bytes (Token.message a (LittleEndian.encode 8 e)))) ∧
    (∃ a e, a.host.length = b.host.length + 8 ∧
      Straddles a (LittleEndian.encode 8 e) b (Challenge.nonce x)) ∧
    ∀ (a : Identity) (issued : Clock) (lifetime : Duration),
      Token.message a (LittleEndian.encode 8 (issued.expiresAt lifetime)) ≠
        Challenge.message b (Challenge.nonce x) := by
  refine ⟨fun a e => ⟨?_, _, (sound_reached secret levels clock calls).reply_verify a _, ?_⟩,
    exists_straddles b (Challenge.length_nonce x),
    fun a issued lifetime => issued_message_ne a b issued lifetime x⟩
  · exact message_eq_iff a b (LittleEndian.length_encode ..) (Challenge.length_nonce x)
  · exact Token.ok_of_text secret.bytes _ a (LittleEndian.length_encode ..) (Hmac.length_tag ..)

namespace Sample

/-- The identity whose token lies across the challenge of `identity`. -/
def shifted : Identity :=
  ⟨.v6 #v[0, 0, 255, 255, 192, 0, 2, 1, 1, 49, 48, 102, 102, 53, 51, 54],
    [97, 0, 0, 0, 0, 0, 0, 0, 0], 53⟩

def shiftedExpiry : Nat := 3472328296227680304

end Sample

/-- **A proof that was handed out without any work is the tag of a token.** One client asks for a
challenge; with its proof another client has a token, of level 53. -/
theorem proof_forges_token :
    Token.message Sample.shifted (LittleEndian.encode 8 Sample.shiftedExpiry) =
      Challenge.message Sample.identity (Challenge.nonce (Sample.clock.expiresAt Sample.hour)) ∧
    ∃ response,
      ((reached Sample.secret Sample.levels Sample.clock [.acquire 0]).apply
        (.run 0 ⟨.get, [], Sample.identity⟩)).1 = .ran (.ok ()) response ∧
      response.token.readable = [] ∧
      (((reached Sample.secret Sample.levels Sample.clock [.acquire 0]).apply
        (.run 0 ⟨.get, [], Sample.identity⟩)).2.apply (.verify Sample.shifted
        (Bytes.ofText "35|3030303030303030|" ++ response.body.readable.extract 48 112))).1 =
          .verified (.ok ()) := by
  have hmessage : Token.message Sample.shifted (LittleEndian.encode 8 Sample.shiftedExpiry) =
      Challenge.message Sample.identity (Challenge.nonce (Sample.clock.expiresAt Sample.hour)) := by
    decide
  let body := Challenge.offered Sample.secret.bytes Sample.identity .default
    (Sample.clock.expiresAt Sample.hour)
  have hasked := sound_reached Sample.secret Sample.levels Sample.clock [.acquire 0]
  refine ⟨hmessage, .wrote body [], hasked.reply_run 0 ⟨.get, [], Sample.identity⟩, rfl, ?_⟩
  have hbody : (Response.wrote body []).body.readable.extract 48 112 = Hex.encode
      (Hmac.tag Sample.secret.bytes (Token.message Sample.shifted
        (LittleEndian.encode 8 Sample.shiftedExpiry))) := by
    rw [Response.wrote, Buffer.readable_holding, List.drop_zero, Challenge.extract_offered, hmessage]
  have htoken (tag : Bytes) : Bytes.ofText "35|3030303030303030|" ++ Hex.encode tag =
      Token.text 53 (LittleEndian.encode 8 Sample.shiftedExpiry) tag := by
    rw [Token.text_eq]
    rfl
  rw [hbody, htoken, (hasked.apply _).reply_verify, clock_apply, Reply.verified.injEq]
  exact (Token.ok_of_text _ _ Sample.shifted (LittleEndian.length_encode ..)
    (Hmac.length_tag ..)).mpr ⟨by decide, rfl⟩

end Engine.Session
end Passage
