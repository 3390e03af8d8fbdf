import Passage.Proofs.Instances
import Passage.Proofs.Messages

/- The two spellings of an IPv4 client.

   A proxy may hand over the address of an IPv4 client as four octets or in the mapped form
   `::ffff:a.b.c.d`. Which one it hands over in which call makes no difference, to this call
   or to any later one.

   1. Fields in either spelling are refused for one fault, or stand for identities that are
      written alike (`Fields.identity_respelled`).
   2. What is written is all that an engine reads of an address: tokens and challenges are
      signed and checked alike, and leave one engine (`Engine.issue_alike`,
      `Engine.verify_alike`, `Engine.run_alike`).
   3. So a call in either spelling has one answer and leaves one instance
      (`Instance.apply_respelled`), counters and pools included. Nothing is asked of the
      instance. Hence a whole sequence of calls is answered alike, whichever of them are
      respelled, and so is a caller who chooses each call by the answers before it. -/
namespace Passage

namespace Address

/-- The other spelling of an IPv4 client's octets. All other octets have one spelling. -/
def respelled (octets : Bytes) : Bytes :=
  if octets.length = 4 then mappedHead ++ octets
  else if octets.length = 16 ∧ octets.take 12 = mappedHead then octets.drop 12
  else octets

theorem map_octets_respelled (bs : Bytes) :
    (ofOctets? (respelled bs)).map octets = (ofOctets? bs).map octets := by
  rw [map_octets_ofOctets?, map_octets_ofOctets?, respelled]
  by_cases hfour : bs.length = 4
  · have hlong : (mappedHead ++ bs).length = 16 := by rw [List.length_append, hfour]; rfl
    rw [if_pos hfour, if_pos hfour, hlong, if_neg (by decide), if_pos rfl]
  rw [if_neg hfour, if_neg hfour]
  by_cases hhead : bs.length = 16 ∧ bs.take 12 = mappedHead
  · have hshort : (bs.drop 12).length = 4 := by rw [List.length_drop, hhead.1]
    rw [if_pos hhead, if_pos hshort, if_pos hhead.1, ← hhead.2, List.take_append_drop]
  · rw [if_neg hhead, if_neg hfour]

theorem respelled_of_length {bs : Bytes} (h : bs.length ≠ 4 ∧ bs.length ≠ 16) :
    respelled bs = bs := by
  rw [respelled, if_neg h.1, if_neg fun hhead => h.2 hhead.1]

theorem length_respelled_iff (bs : Bytes) :
    (respelled bs).length ≠ 4 ∧ (respelled bs).length ≠ 16 ↔ bs.length ≠ 4 ∧ bs.length ≠ 16 := by
  rw [← ofOctets?_eq_none_iff, ← ofOctets?_eq_none_iff, ← Option.map_eq_none_iff,
    map_octets_respelled, Option.map_eq_none_iff]

end Address

namespace Identity.Alike
variable {a b : Identity}

theorem origin_eq (h : a.Alike b) : a.origin = b.origin := by rw [origin, origin, h.host, h.octets]

theorem material_eq (h : a.Alike b) : a.material = b.material := by
  rw [material, material, h.origin_eq, h.level]

end Identity.Alike

namespace Fields

def respelled (fields : Fields) : Fields := { fields with source := Address.respelled fields.source }

@[simp] theorem level_respelled (fields : Fields) : fields.respelled.level = fields.level := rfl

@[simp] theorem source_respelled (fields : Fields) :
    fields.respelled.source = Address.respelled fields.source := rfl

theorem sameClient_respelled (fields : Fields) : fields.respelled.SameClient fields :=
  ⟨rfl, Address.map_octets_respelled fields.source⟩

theorem fault?_respelled (fields : Fields) : fields.respelled.fault? = fields.fault? := by
  have hlengths := Address.length_respelled_iff fields.source
  rw [fault?, fault?, source_respelled]
  by_cases hnone : fields.source.length ≠ 4 ∧ fields.source.length ≠ 16
  · -- The fault tells the length of the octets, and these are the same ones.
    rw [if_pos hnone, if_pos (hlengths.mpr hnone), Address.respelled_of_length hnone]
  · rw [if_neg hnone, if_neg (mt hlengths.mp hnone)]
    rfl

/-- Either spelling is refused for the same fault, or stands for the same host, the same written
address and the same level. -/
theorem identity_respelled (fields : Fields) :
    (∃ fault, fields.respelled.identity = .error fault ∧ fields.identity = .error fault) ∨
      ∃ a b, fields.respelled.identity = .ok a ∧ fields.identity = .ok b ∧ a.Alike b := by
  cases hfault : fields.fault? with
  | some fault =>
    have hother : fields.respelled.fault? = some fault := fields.fault?_respelled.trans hfault
    exact .inl ⟨fault, identity_of_fault hother, identity_of_fault hfault⟩
  | none =>
    obtain ⟨address, -, hid⟩ := identity_of_usable hfault
    obtain ⟨a, ha, hhost, hoctets, hlevel⟩ := fields.sameClient_respelled.identity hid
    exact .inr ⟨a, _, ha, hid, hhost, hoctets, hlevel⟩

end Fields

/-! Engines. -/

theorem Token.check_alike {a b : Identity} (h : a.Alike b) (now : Nat) : check now a = check now b := by
  rw [check, check, h.origin_eq, h.level]

namespace Engine
variable {a b : Identity} (h : a.Alike b) (e : Engine) (clock : Clock)
include h

theorem issue_alike (lifetime : Duration) (out : Buffer) :
    e.issue clock a lifetime out = e.issue clock b lifetime out := by
  rw [issue, issue, h.material_eq, h.level]

theorem verify_alike (token : Bytes) : e.verify clock a token = e.verify clock b token := by
  rw [verify, verify, Token.check_alike h]

theorem challenge_alike (level : Level) (body : Buffer) :
    e.challenge clock a level body = e.challenge clock b level body := by
  rw [challenge, challenge, h.material_eq]

theorem checkSolution_alike (body : Bytes) :
    e.checkSolution clock a body = e.checkSolution clock b body := by
  rw [checkSolution, checkSolution, h.material_eq]

theorem pass_alike (level : Level) (response : Response) :
    e.pass clock a level response = e.pass clock b level response := by
  simp only [pass, e.issue_alike h]

theorem run_alike (method : Method) (body : Bytes) (response : Response) :
    e.run clock ⟨method, body, a⟩ response = e.run clock ⟨method, body, b⟩ response := by
  simp only [run, h.level, e.pass_alike h, e.challenge_alike h, e.checkSolution_alike h,
    fun e : Engine => e.issue_alike h]

end Engine

/-! Frontends. -/

namespace Frontend
variable (f : Frontend) (clock : Clock) (fields : Fields)

theorem validate_respelled (cookie : Bytes) :
    f.validate clock fields.respelled cookie = f.validate clock fields cookie := by
  rw [validate, validate, Fields.level_respelled]
  obtain ⟨fault, hother, hthis⟩ | ⟨a, b, hother, hthis, halike⟩ := fields.identity_respelled
  · rw [hother, hthis]
  · simp only [hother, hthis, f.engine.verify_alike halike]

theorem challenge_respelled (method body : Bytes) :
    f.challenge clock fields.respelled method body = f.challenge clock fields method body := by
  rw [challenge, challenge, Fields.level_respelled]
  obtain ⟨fault, hother, hthis⟩ | ⟨a, b, hother, hthis, halike⟩ := fields.identity_respelled
  · rw [hother, hthis]
  · simp only [hother, hthis, fun e : Engine => e.run_alike halike]

end Frontend

namespace Instance

def Op.respelled : Op → Op
  | .clock op => .clock op
  | .validate target fields cookie => .validate target fields.respelled cookie
  | .challenge target fields method body => .challenge target fields.respelled method body

/-- A call in either spelling has one answer and leaves one instance. -/
theorem apply_respelled (i : Instance) (op : Op) : i.apply op.respelled = i.apply op := by
  cases op with
  | clock op => rfl
  | validate target fields cookie =>
    simp only [Op.respelled, apply, validate, Frontend.validate_respelled]
  | challenge target fields method body =>
    simp only [Op.respelled, apply, challenge, Frontend.challenge_respelled]

/-- The calls with some of them respelled. -/
def respelledAt (which : Nat → Bool) (calls : List Op) : List Op :=
  calls.mapIdx fun n op => if which n then op.respelled else op

theorem apply_respelledIf (i : Instance) (swap : Bool) (op : Op) :
    i.apply (if swap then op.respelled else op) = i.apply op := by
  cases swap with
  | false => rfl
  | true => exact i.apply_respelled op

theorem respelledAt_cons (which : Nat → Bool) (op : Op) (calls : List Op) :
    respelledAt which (op :: calls) = (if which 0 then op.respelled else op) ::
      respelledAt (fun n => which (n + 1)) calls :=
  List.mapIdx_cons

theorem replies_respelledAt (i : Instance) (which : Nat → Bool) (calls : List Op) :
    i.replies (respelledAt which calls) = i.replies calls := by
  induction calls generalizing i which with
  | nil => rfl
  | cons op calls ih =>
    rw [respelledAt_cons, replies, replies, apply_respelledIf]
    exact congrArg (List.cons _) (ih _ _)

theorem run_respelledAt (i : Instance) (which : Nat → Bool) (calls : List Op) :
    i.run (respelledAt which calls) = i.run calls := by
  induction calls generalizing i which with
  | nil => rfl
  | cons op calls ih =>
    rw [respelledAt_cons, run, run, List.foldl_cons, List.foldl_cons, apply_respelledIf]
    exact ih _ _

/-! Callers. -/

/-- What a caller has been answered who chooses each of some calls by the answers before it, and
the instance after them. -/
def converse (i : Instance) (caller : List Reply → Op) : Nat → List Reply → List Reply × Instance
  | 0, seen => (seen, i)
  | n + 1, seen =>
    (i.apply (caller seen)).2.converse caller n (seen ++ [(i.apply (caller seen)).1])

/-- A caller who now and then hands over the address in its other spelling. -/
def respelling (caller : List Reply → Op) (swaps : List Reply → Bool) (seen : List Reply) : Op :=
  if swaps seen then (caller seen).respelled else caller seen

theorem converse_respelling (i : Instance) (caller : List Reply → Op) (swaps : List Reply → Bool)
    (n : Nat) (seen : List Reply) :
    i.converse (respelling caller swaps) n seen = i.converse caller n seen := by
  induction n generalizing i seen with
  | zero => rfl
  | succ n ih => rw [converse, converse, respelling, apply_respelledIf, ih]

/-- **An IPv4 client and its mapped form are one client**, in every instance and over every sequence
of calls. Whichever calls hand over the address in its other spelling, every call is answered as
before and the instance, its counters among it, goes where it went. So it is for a caller who makes
each call of what was answered before, under either spelling. -/
theorem one_client (i : Instance) :
    (∀ (calls : List Op) (which : Nat → Bool),
      i.replies (respelledAt which calls) = i.replies calls ∧
        i.run (respelledAt which calls) = i.run calls) ∧
    ∀ (caller : List Reply → Op) (swaps : List Reply → Bool) (n : Nat),
      i.converse (respelling caller swaps) n [] = i.converse caller n [] :=
  ⟨fun calls which => ⟨i.replies_respelledAt which calls, i.run_respelledAt which calls⟩,
    fun caller swaps n => i.converse_respelling caller swaps n []⟩

end Instance
end Passage
