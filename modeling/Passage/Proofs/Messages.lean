import Passage.Challenge
import Passage.Token

/- What a signed message tells.

   A message is a host, sixteen address octets, a level byte and a rest of a fixed
   width, with nothing between them. Read from the right every field but the host has
   a width of its own, so a message tells all four fields, however long the host is and
   whatever it holds (`material_append_eq_iff`).

   It does not tell the family of an address. Two addresses are written alike exactly if
   they are one address, or one is an IPv4 address and the other its mapped form
   (`octets_eq_iff`).

   A `Collision` names the two messages that have one tag. That some messages have one
   tag says nothing, for there are more messages than tags. -/
namespace Passage

namespace Address

theorem length_octets (address : Address) : address.octets.length = 16 := by
  cases address with
  | v4 a b c d => rfl
  | v6 octets => exact octets.size_toArray

/-- The IPv6 form of an IPv4 address, `::ffff:a.b.c.d`. -/
def mapped (a b c d : UInt8) : Address :=
  .v6 #v[0, 0, 0, 0, 0, 0, 0, 0, 0, 0, 0xff, 0xff, a, b, c, d]

/-- What stands before an IPv4 address in its mapped form. -/
def mappedHead : Bytes := [0, 0, 0, 0, 0, 0, 0, 0, 0, 0, 0xff, 0xff]

/-- Four octets are written behind the head of the mapped form, sixteen as they are. -/
theorem map_octets_ofOctets? (bs : Bytes) : (ofOctets? bs).map octets =
    if bs.length = 4 then some (mappedHead ++ bs) else if bs.length = 16 then some bs else none := by
  rw [ofOctets?.eq_def]
  split
  · rfl
  · next hfour =>
    have hlength : bs.length ≠ 4 := fun h =>
      match bs, h with
      | [a, b, c, d], _ => hfour a b c d rfl
    rw [if_neg hlength]
    split
    · rfl
    · rfl

theorem ofOctets?_eq_none_iff (bs : Bytes) :
    ofOctets? bs = none ↔ bs.length ≠ 4 ∧ bs.length ≠ 16 := by
  rw [← Option.map_eq_none_iff, map_octets_ofOctets?]
  by_cases hfour : bs.length = 4
  · simp [hfour]
  · by_cases hlong : bs.length = 16 <;> simp [hfour, hlong]

/-- The first is an IPv4 address and the second its mapped form. -/
def MapsTo (x y : Address) : Prop := ∃ a b c d, x = .v4 a b c d ∧ y = mapped a b c d

theorem octets_mapped (a b c d : UInt8) : (mapped a b c d).octets = (v4 a b c d).octets := rfl

theorem v6_of_octets {o p : Vector UInt8 16} (h : (v6 o).octets = (v6 p).octets) : v6 o = v6 p :=
  congrArg v6 (Vector.toList_inj.mp h)

theorem MapsTo.octets_eq {x y : Address} (h : MapsTo x y) : x.octets = y.octets := by
  obtain ⟨a, b, c, d, rfl, rfl⟩ := h
  exact (octets_mapped a b c d).symm

theorem mapsTo_of_octets {a b c d : UInt8} {o : Vector UInt8 16}
    (h : (v4 a b c d).octets = (v6 o).octets) : MapsTo (v4 a b c d) (v6 o) := by
  refine ⟨a, b, c, d, rfl, ?_⟩
  exact v6_of_octets (h.symm.trans (octets_mapped a b c d).symm)

theorem octets_eq_iff (x y : Address) :
    x.octets = y.octets ↔ x = y ∨ MapsTo x y ∨ MapsTo y x := by
  constructor
  · intro h
    cases x with
    | v4 a b c d =>
      cases y with
      | v4 a' b' c' d' =>
        simp only [octets, List.cons.injEq, and_true, true_and] at h
        obtain ⟨rfl, rfl, rfl, rfl⟩ := h
        exact .inl rfl
      | v6 p => exact .inr (.inl (mapsTo_of_octets h))
    | v6 o =>
      cases y with
      | v4 a b c d => exact .inr (.inr (mapsTo_of_octets h.symm))
      | v6 p => exact .inl (v6_of_octets h)
  · rintro (rfl | h | h)
    · rfl
    · exact h.octets_eq
    · exact h.octets_eq.symm

end Address

namespace Identity

/-- Identities with another host or another written address. -/
def Apart (a b : Identity) : Prop := a.host ≠ b.host ∨ a.address.octets ≠ b.address.octets

/-- Identities that are written alike, whatever the families of their addresses. -/
structure Alike (a b : Identity) : Prop where
  host : a.host = b.host
  octets : a.address.octets = b.address.octets
  level : a.level = b.level

/-- Signed material with a rest of one width tells all its fields. -/
theorem material_append_eq_iff (a b : Identity) {x y : Bytes} (h : x.length = y.length) :
    a.material ++ x = b.material ++ y ↔
      a.host = b.host ∧ a.address.octets = b.address.octets ∧ a.level = b.level ∧ x = y := by
  unfold material origin
  constructor
  · intro hm
    -- The fields of fixed width peel off from the right, and what is left is the host.
    obtain ⟨hm, hrest⟩ := List.append_inj' hm h
    obtain ⟨hm, hlevel⟩ := List.append_inj' hm rfl
    obtain ⟨hhost, hoctets⟩ := List.append_inj' hm
      (a.address.length_octets.trans b.address.length_octets.symm)
    exact ⟨hhost, hoctets, (List.cons.inj hlevel).1, hrest⟩
  · rintro ⟨hhost, hoctets, hlevel, rfl⟩
    rw [hhost, hoctets, hlevel]

/-- Messages of this kind, with rests of this width, tell who they were made for and their rest. -/
def Told (message : Identity → Bytes → Bytes) (width : Nat) (a b : Identity) : Prop :=
  ∀ x y : Bytes, x.length = width → y.length = width →
    (message a x = message b y ↔ a.Alike b ∧ x = y)

theorem told_material (width : Nat) (a b : Identity) :
    Told (fun id rest => id.material ++ rest) width a b := by
  intro x y hx hy
  rw [material_append_eq_iff a b (hx.trans hy.symm)]
  constructor
  · rintro ⟨hhost, hoctets, hlevel, hrest⟩
    exact ⟨⟨hhost, hoctets, hlevel⟩, hrest⟩
  · rintro ⟨⟨hhost, hoctets, hlevel⟩, hrest⟩
    exact ⟨hhost, hoctets, hlevel, hrest⟩

theorem Apart.material_append_ne {a b : Identity} (hab : a.Apart b) {x y : Bytes}
    (h : x.length = y.length) : a.material ++ x ≠ b.material ++ y := by
  intro hm
  obtain ⟨hhost, hoctets, -, -⟩ := (material_append_eq_iff a b h).mp hm
  rcases hab with hne | hne
  · exact hne hhost
  · exact hne hoctets

end Identity

/-- Two different messages with one tag under a key. -/
structure Hmac.Collision (key m n : Bytes) : Prop where
  ne : m ≠ n
  tag_eq : tag key m = tag key n

end Passage
