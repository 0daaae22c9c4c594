import SchemaKit.Json.Canonical
import SchemaKit.Proofs.Json.Double
import SchemaKit.Proofs.Json.Reading
import SchemaKit.Proofs.Json.Sorted

/-!
# Canonical values

The canonical form of a value is a fixed point: its numbers are shortest literals of doubles, and its
objects name each member once, in ascending order. Taking the canonical form of such a value changes
nothing.

## Main definitions

* `SchemaKit.Json.Canonical` — values in canonical form.

## Main results

* `SchemaKit.Json.canonical_of_canonical?` — the canonical form of a value is canonical.
* `SchemaKit.Json.Canonical.canonical?_eq` — a canonical value is its own canonical form.
* `SchemaKit.Json.Canonical.wellFormed` — canonical values are well formed.
-/

namespace SchemaKit

namespace Json

/-- Numbers are shortest literals of doubles, and the members of objects are in ascending order. -/
inductive Canonical : Json → Prop
  | null : Canonical .null
  | bool (b : Bool) : Canonical (.bool b)
  | num {d : Double} (hd : d.Valid) : Canonical (.num (.ofDouble d))
  | str (s : String) : Canonical (.str s)
  | arr {items : List Json} (hitems : ∀ v ∈ items, Canonical v) : Canonical (.arr items)
  | obj {members : List (String × Json)} (hkeys : (members.map (·.1)).Pairwise (· < ·))
      (hvalues : ∀ m ∈ members, Canonical m.2) : Canonical (.obj members)

/-! ## The canonical form is canonical -/

/-- Items are settled one by one. -/
lemma settleItems_eq_map (items : List Json) : settle.settleItems items = items.map settle := by
  induction items with
  | nil => rfl
  | cons v rest ih => rw [settle.settleItems, ih, List.map_cons]

/-- Members are settled one by one. -/
lemma settleMembers_eq_map (members : List (String × Json)) :
    settle.settleMembers members = members.map fun m => (m.1, settle m.2) := by
  induction members with
  | nil => rfl
  | cons m rest ih => rw [settle.settleMembers, ih, List.map_cons]

mutual

/-- A rounded value is canonical once its objects are settled, and has not become deeper.

**Proof sketch.** By recursion on the value. Literals become those of finite doubles, items and
values are settled one by one, and the members that are left have ascending names. Every one that is
left was there before, so that nothing becomes deeper. -/
theorem canonical_settle : ∀ {v u : Json}, round? v = some u →
    Canonical u.settle ∧ u.settle.depth ≤ v.depth
  | .null, _, h => by
    cases h
    exact ⟨.null, le_rfl⟩
  | .bool b, _, h => by
    cases h
    exact ⟨.bool b, le_rfl⟩
  | .num n, u, h => by
    obtain ⟨d, hd, rfl⟩ := Option.map_eq_some_iff.1 h
    exact ⟨.num (Numeral.valid_of_double? hd), le_rfl⟩
  | .str s, _, h => by
    cases h
    exact ⟨.str s, le_rfl⟩
  | .arr items, u, h => by
    obtain ⟨us, hus, rfl⟩ := Option.map_eq_some_iff.1 h
    have hitems := canonical_settleItems hus
    exact ⟨.arr fun w hw => (hitems w hw).1,
      Nat.succ_le_succ (depthItems_le_iff.2 fun w hw => (hitems w hw).2)⟩
  | .obj members, u, h => by
    obtain ⟨us, hus, rfl⟩ := Option.map_eq_some_iff.1 h
    have hvalues := canonical_settleMembers hus
    exact ⟨.obj pairwise_keys_sortLast fun m hm => (hvalues m (mem_of_mem_sortLast hm)).1,
      Nat.succ_le_succ (depthMembers_le_iff.2 fun m hm => (hvalues m (mem_of_mem_sortLast hm)).2)⟩

/-- Item by item.

**Proof sketch.** By recursion on the items, each of which is treated by `canonical_settle`. -/
theorem canonical_settleItems : ∀ {items us : List Json}, roundItems? items = some us →
    ∀ w ∈ settle.settleItems us, Canonical w ∧ w.depth ≤ depth.depthItems items
  | [], _, h => by
    cases h
    exact nofun
  | v :: rest, us, h => by
    rw [roundItems?] at h
    split at h
    · next u us hu hus =>
      cases h
      intro w hw
      rw [depth.depthItems]
      rcases List.mem_cons.1 hw with rfl | hw
      · exact (canonical_settle hu).imp_right (le_max_of_le_left ·)
      · exact (canonical_settleItems hus w hw).imp_right (le_max_of_le_right ·)
    · cases h

/-- Member by member.

**Proof sketch.** By recursion on the members, whose values are treated by `canonical_settle`. -/
theorem canonical_settleMembers : ∀ {members us : List (String × Json)},
    roundMembers? members = some us →
    ∀ m ∈ settle.settleMembers us, Canonical m.2 ∧ m.2.depth ≤ depth.depthMembers members
  | [], _, h => by
    cases h
    exact nofun
  | (k, v) :: rest, us, h => by
    rw [roundMembers?] at h
    split at h
    · next u us hu hus =>
      cases h
      intro m hm
      rw [depth.depthMembers]
      rcases List.mem_cons.1 hm with rfl | hm
      · exact (canonical_settle hu).imp_right (le_max_of_le_left ·)
      · exact (canonical_settleMembers hus m hm).imp_right (le_max_of_le_right ·)
    · cases h

end

/-- **The canonical form of a value is canonical**, and not deeper than the value. -/
theorem canonical_of_canonical? {v w : Json} (h : canonical? v = some w) :
    Canonical w ∧ w.depth ≤ v.depth := by
  obtain ⟨u, hu, rfl⟩ := Option.map_eq_some_iff.1 h
  exact canonical_settle hu

/-! ## Canonical values are fixed points -/

/-- Items that are rounded already stay as they are. -/
lemma roundItems?_eq_self {items : List Json} (h : ∀ v ∈ items, round? v = some v) :
    roundItems? items = some items := by
  induction items with
  | nil => rfl
  | cons v rest ih =>
    rw [List.forall_mem_cons] at h
    rw [roundItems?, h.1, ih h.2]

/-- Members that are rounded already stay as they are. -/
lemma roundMembers?_eq_self {members : List (String × Json)}
    (h : ∀ m ∈ members, round? m.2 = some m.2) : roundMembers? members = some members := by
  induction members with
  | nil => rfl
  | cons m rest ih =>
    rw [List.forall_mem_cons] at h
    rw [roundMembers?, h.1, ih h.2]

/-- Items that are settled already stay as they are. -/
lemma settleItems_eq_self {items : List Json} (h : ∀ v ∈ items, v.settle = v) :
    settle.settleItems items = items := by
  rw [settleItems_eq_map, List.map_congr_left h, List.map_id']

/-- Members that are settled already stay as they are. -/
lemma settleMembers_eq_self {members : List (String × Json)} (h : ∀ m ∈ members, m.2.settle = m.2) :
    settle.settleMembers members = members := by
  induction members with
  | nil => rfl
  | cons m rest ih =>
    rw [List.forall_mem_cons] at h
    rw [settle.settleMembers, h.1, ih h.2]

namespace Canonical

variable {v : Json}

/-- Rounding leaves a canonical value as it is. -/
lemma round?_eq (h : Canonical v) : round? v = some v := by
  induction h with
  | null | bool | str => rfl
  | num hd => rw [round?, Numeral.double?_ofDouble hd, Option.map_some]
  | arr _ ih => rw [round?, roundItems?_eq_self ih, Option.map_some]
  | obj _ _ ih => rw [round?, roundMembers?_eq_self ih, Option.map_some]

/-- Settling leaves a canonical value as it is. -/
lemma settle_eq (h : Canonical v) : v.settle = v := by
  induction h with
  | null | bool | str | num => rfl
  | arr _ ih => rw [settle, settleItems_eq_self ih]
  | obj hkeys _ ih => rw [settle, settleMembers_eq_self ih, sortLast_eq_self hkeys]

/-- **A canonical value is its own canonical form.** -/
theorem canonical?_eq (h : Canonical v) : canonical? v = some v := by
  rw [canonical?, h.round?_eq, Option.map_some, h.settle_eq]

/-- **Canonical values are well formed.** -/
theorem wellFormed (h : Canonical v) : v.WellFormed := by
  induction h with
  | null | bool | str => trivial
  | num hd => exact Numeral.wellFormed_ofDouble hd
  | arr _ ih => exact wellFormedItems_iff.2 ih
  | obj _ _ ih => exact wellFormedMembers_iff.2 ih

end Canonical

end Json

end SchemaKit
