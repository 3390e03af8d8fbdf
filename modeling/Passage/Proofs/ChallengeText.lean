import Passage.Proofs.Answers

/- Challenges and solutions by their parts.

   1. The body of a challenge is one text around its nonce and its proof
      (`offered_eq`).
   2. A solution is written from its parts with a separator behind the nonce and the
      proof. Put together like that it meets all requirements of form but a number, so
      the proof, the nonce's form, the time and the work are left (`firstUnmet_text`).
   3. With the nonce and the proof of a challenge that was handed out, the number, the
      tag, the time and the work are left (`firstUnmet_handed`). -/
namespace Passage.Challenge

/-! The body that a client is shown. -/

/-- `{"c": C, "t": 1, "r": "R", "s": "S"}`, with a countdown, a nonce and a proof. -/
def shown (countdown : Countdown) (nonce proof : Bytes) : Bytes :=
  Bytes.ofText "\x7b\"c\": " ++ [48 + countdown.value] ++ Bytes.ofText ", \"t\": 1, \"r\": \"" ++ nonce ++
    Bytes.ofText "\", \"s\": \"" ++ proof ++ Bytes.ofText "\"\x7d"

theorem offered_eq (key : Bytes) (id : Identity) (countdown : Countdown) (expires : Nat) :
    offered key id countdown expires =
      shown countdown (nonce expires) (Hex.encode (Hmac.tag key (message id (nonce expires)))) := by
  have hkind : Bytes.ofText ", \"t\": 1, \"r\": \"" =
      Bytes.ofText ", \"t\": " ++ [48 + 1] ++ Bytes.ofText ", \"r\": \"" := rfl
  simp only [offered, body, bodyHead, shown, hkind, Countdown.digit, List.flatten_append,
    List.flatten_cons, List.flatten_nil, List.append_nil, List.append_assoc]

theorem isLower_nonce (expires : Nat) : Hex.IsLower (nonce expires) := Hex.isLower_encode _

/-- A nonce stands for the second it was made from. -/
theorem decode_nonce {expires : Nat} (h : expires < wordLimit) :
    LittleEndian.decode (Hex.bytes (nonce expires)) = expires := by
  rw [nonce, Hex.bytes_encode]
  exact LittleEndian.decode_encode h

/-! The text that a client sends back. -/

/-- `nonce-proof-number`. -/
def Solution.text (s : Solution) : Bytes :=
  s.nonce ++ separator :: (s.proof ++ separator :: s.number)

/-- Of a solution that is put together from its parts only the number, the proof, the nonce, the
time and the work are left to check. -/
theorem firstUnmet_text (key : Bytes) (now : Instant) (id : Identity) (s : Solution)
    (hn : s.nonce.length = 16) (hp : s.proof.length = 64) :
    firstUnmet (requirements key now id s.text) =
      firstUnmet [⟨s.number ≠ [], .invalidLength⟩,
        ⟨s.proof = Hex.encode (Hmac.tag key (message id s.nonce)), .invalidHmac⟩,
        ⟨Hex.IsLower s.nonce, .malformed⟩,
        ⟨max 0 (now.toNanos / (billion : Int)) ≤ LittleEndian.decode (Hex.bytes s.nonce), .expired⟩,
        ⟨s.number.length ≤ 20 ∧ s.number.all Bytes.isDigit = true ∧
          (Sha256.digest (s.nonce ++ s.number)).take 2 = [0, 0], .invalidSolution⟩] := by
  have hm : id.host ++ id.address.octets ++ [id.level] ++ s.nonce = message id s.nonce := rfl
  -- Each part and separator by its place.
  have hlen : s.text.length = 82 + s.number.length := by
    simp only [Solution.text, List.length_append, List.length_cons, hn, hp]
    omega
  have hlong : 82 < s.text.length ↔ s.number ≠ [] := by
    rw [hlen, ← List.length_pos_iff]
    omega
  have hnonce : s.text.extract 0 16 = s.nonce :=
    Bytes.extract_of_eq (a := []) (c := separator :: (s.proof ++ separator :: s.number)) rfl rfl
      (by rw [hn])
  have hfirst : s.text[16]? = some separator := Bytes.getElem?_of_eq (a := s.nonce) rfl hn
  have hproof : s.text.extract 17 81 = s.proof :=
    Bytes.extract_of_eq (a := s.nonce ++ [separator]) (c := separator :: s.number)
      (by simp [Solution.text]) (by simp [hn]) (by rw [hp])
  have hsecond : s.text[81]? = some separator :=
    Bytes.getElem?_of_eq (a := s.nonce ++ [separator] ++ s.proof) (c := s.number)
      (by simp [Solution.text]) (by simp [hn, hp])
  have hnumber : s.text.drop 82 = s.number := by
    have hsplit : s.text = (s.nonce ++ [separator] ++ s.proof ++ [separator]) ++ s.number := by
      simp [Solution.text]
    rw [hsplit, List.drop_left' (by simp [hn, hp])]
  simp only [requirements, firstUnmet_cons, hlong, hnonce, hfirst, hproof, hsecond, hnumber, hm,
    and_self, if_true]

/-- What comes back of a challenge: its nonce and its proof, and a number. -/
def handed (key : Bytes) (id : Identity) (expires : Nat) (number : Bytes) : Solution :=
  ⟨nonce expires, Hex.encode (Hmac.tag key (message id (nonce expires))), number⟩

theorem firstUnmet_handed (key : Bytes) (now : Instant) (a b : Identity) {expires : Nat}
    (h : expires < wordLimit) (number : Bytes) :
    firstUnmet (requirements key now b (handed key a expires number).text) =
      firstUnmet [⟨number ≠ [], .invalidLength⟩,
        ⟨Hmac.tag key (message a (nonce expires)) = Hmac.tag key (message b (nonce expires)),
          .invalidHmac⟩,
        ⟨max 0 (now.toNanos / (billion : Int)) ≤ expires, .expired⟩,
        ⟨number.length ≤ 20 ∧ number.all Bytes.isDigit = true ∧
          (Sha256.digest (nonce expires ++ number)).take 2 = [0, 0], .invalidSolution⟩] := by
  have hproof : (Hex.encode (Hmac.tag key (message a (nonce expires))) =
      Hex.encode (Hmac.tag key (message b (nonce expires)))) ↔
        Hmac.tag key (message a (nonce expires)) = Hmac.tag key (message b (nonce expires)) :=
    ⟨Hex.encode_injective, congrArg Hex.encode⟩
  rw [firstUnmet_text key now b _ (length_nonce expires)
    (by rw [handed, Hex.length_encode, Hmac.length_tag])]
  simp only [firstUnmet_cons]
  simp only [handed, hproof, isLower_nonce, decode_nonce h, if_true]
  rfl

end Passage.Challenge
