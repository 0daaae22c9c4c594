import Mathlib.Logic.Relation
import SchemaKit.Proofs.Drift.Conformance

/-!
# Where the walk comes

The walk is a recursion with many ways out: a shape is passed over, a place holds no schema, a list has no
schema for its items, a disagreement was found. To see that none of them leaves something unlooked at, the
recursion is taken apart into spots. A spot is what the walk is called with; from one it goes to the next
ones, and in each there is something to look at, whatever happens in the others. A spot is accepted iff
nothing is wrong there and the next ones are accepted.

## Main definitions

* `SchemaKit.Drift.Spot`, `SchemaKit.Drift.Next` — a call of the walk, and the calls it leads to.
* `SchemaKit.Drift.Clean` — nothing is wrong at a spot itself.
* `SchemaKit.Drift.Matches`, `SchemaKit.Drift.Agrees` — what is looked at in a spot.

## Main results

* `SchemaKit.Drift.accepted_iff_next` — a spot is accepted iff it is clean and the next ones are accepted.
* `SchemaKit.Drift.accepted_iff_of_meets` — the same where there is something to compare, by cases on the
  shape.
* `SchemaKit.Drift.Accepted.reaches` — what is reached from an accepted spot is accepted.
-/

namespace SchemaKit.Drift

open Validation (Kind)
open Schema (Sub)
open Json (lookup?)

/-! ## Spots -/

/-- Where the walk is: at a shape, with what is known about the value that stands for it, the steps that
lead there, and what it is compared with. -/
structure Spot where
  shape : Shape
  place : Place
  path : Path
  stage : Stage

/-- Where a check begins. -/
def Spot.whole (root : Schema) (s : Shape) : Spot := ⟨s, .root, [], .arrival (some root) false⟩

/-- The shape at a spot is compared with a target. -/
def Meets (root : Schema) (a : Spot) (t : Target) : Prop :=
  enter root a.shape a.place a.path a.stage = .ok (some t)

/-- The walk finds no disagreement from a spot on. -/
def Accepted (root : Schema) (a : Spot) : Prop :=
  walk root a.shape a.place a.path a.stage = .ok ()

/-- Where the walk goes from a spot: to what lies behind a pointer or a name, to the items of a list, the values of
a map, and the fields of a record. -/
inductive Next (root : Schema) : Spot → Spot → Prop
  | behind {elem : Shape} {isSet : Bool} {p : Place} {path : Path} {sch : Option Schema}
      {omitted : Bool} {t : Target}
      (hmeets : Meets root ⟨.pointer elem isSet, p, path, .arrival sch omitted⟩ t) :
      Next root ⟨.pointer elem isSet, p, path, .arrival sch omitted⟩
        ⟨elem, p.behind isSet, path, .resolved t⟩
  | named {waiver : Waiver} {base : Shape} {p : Place} {path : Path} {stage : Stage} {t : Target}
      (hmeets : Meets root ⟨.named waiver base, p, path, stage⟩ t) :
      Next root ⟨.named waiver base, p, path, stage⟩ ⟨base, p, path, .resolved t⟩
  | slice {elem : Shape} {p : Place} {path : Path} {stage next : Stage} {t : Target}
      (hmeets : Meets root ⟨.slice elem, p, path, stage⟩ t) (hkind : t.kind = .array)
      (hnext : itemStage? t.schema = some next) :
      Next root ⟨.slice elem, p, path, stage⟩ ⟨elem, .fresh, .item :: path, next⟩
  | array {elem : Shape} {p : Place} {path : Path} {stage next : Stage} {t : Target}
      (hmeets : Meets root ⟨.array elem, p, path, stage⟩ t) (hkind : t.kind = .array)
      (hnext : itemStage? t.schema = some next) :
      Next root ⟨.array elem, p, path, stage⟩ ⟨elem, .fresh, .item :: path, next⟩
  | entry {elem : Shape} {p : Place} {path : Path} {stage next : Stage} {t : Target}
      (hmeets : Meets root ⟨.map elem, p, path, stage⟩ t) (hkind : t.kind = .object)
      (hnext : entryStage? t.schema = some next) :
      Next root ⟨.map elem, p, path, stage⟩ ⟨elem, .fresh, .entry :: path, next⟩
  | field {waiver : Waiver} {fields : List (Label × Shape)} {p : Place} {path : Path} {stage : Stage}
      {t : Target} {l : Label} {s : Shape} {m : Member} {sub : Sub}
      (hmeets : Meets root ⟨.record waiver fields, p, path, stage⟩ t) (hkind : t.kind = .object)
      (hfield : (l, s) ∈ fields) (hmember : l.member? = some m)
      (hsub : lookup? (t.schema.entries .properties) m.name = some sub) :
      Next root ⟨.record waiver fields, p, path, stage⟩
        ⟨s, p, .member m.name :: path, .arrival sub.schema? m.omitted⟩

/-- Whether a shape has something inside that can be compared. -/
def hasInside : Shape → Bool
  | .pointer _ _ | .named _ _ | .slice _ | .array _ | .map _ | .record _ _ => true
  | _ => false

/-- Where the walk comes from a spot on, if nothing stops it. -/
def Reaches (root : Schema) : Spot → Spot → Prop := Relation.ReflTransGen (Next root)

/-! ## What is looked at in one spot -/

/-- The labels of a record fit the properties of a schema: every field that is written has a property,
which is required if the field is always written, and every property has a field. -/
structure Matches (sch : Schema) (labels : List Label) : Prop where
  isOpen : isOpen sch = false
  declared : ∀ l ∈ labels, ∀ m, l.member? = some m → ∃ sub, property sch m = .ok sub
  met : ∀ name ∈ propertyNames sch, ∃ l ∈ labels, ∃ m, l.member? = some m ∧ m.name = name

/-- A target and a shape agree, apart from what lies inside the shape. -/
inductive Agrees (t : Target) : Stage → Shape → Prop
  | anything {stage : Stage} : Agrees t stage .anything
  | raw {stage : Stage} : Agrees t stage .raw
  | leaf {stage : Stage} {s : Shape} (hfits : fits t.kind s = .ok ()) : Agrees t stage s
  | pointer {sch : Option Schema} {omitted : Bool} {elem : Shape} {isSet : Bool} :
      Agrees t (.arrival sch omitted) (.pointer elem isSet)
  | named {stage : Stage} {waiver : Waiver} {base : Shape} : Agrees t stage (.named waiver base)
  | slice {stage : Stage} {elem : Shape} (hkind : t.kind = .array) : Agrees t stage (.slice elem)
  | array {stage : Stage} {elem : Shape} (hkind : t.kind = .array) : Agrees t stage (.array elem)
  | map {stage : Stage} {elem : Shape} (hkind : t.kind = .object) (hclosed : isClosed t.schema = false) :
      Agrees t stage (.map elem)
  | record {stage : Stage} {waiver : Waiver} {fields : List (Label × Shape)} (hkind : t.kind = .object)
      (hmatches : Matches t.schema (fields.map (·.1))) : Agrees t stage (.record waiver fields)
  | time {stage : Stage} (hkind : t.kind = .object) (hmatches : Matches t.schema []) :
      Agrees t stage .time

/-- Nothing is wrong at a spot itself: the schema can be used, and the shape agrees with the target. -/
def Clean (root : Schema) (a : Spot) : Prop :=
  ∃ met, enter root a.shape a.place a.path a.stage = .ok met ∧
    ∀ t, met = some t → Agrees t a.stage a.shape

/-- What the walk does with a list: it goes on with the items if there is a schema for them. -/
def walkItems (root : Schema) (elem : Shape) (t : Target) (s : Shape) (path : Path) :
    Except Fault Unit :=
  match t.kind, itemStage? t.schema with
  | .array, some stage => walk root elem .fresh (.item :: path) stage
  | .array, none => .ok ()
  | _, _ => leaf t s path

section

variable {root sch : Schema} {t t' : Target} {a b : Spot} {s : Shape} {path : Path} {m : Member}
  {sub : Sub} {p : Place} {fields : List (Label × Shape)}

/-- A spot has one target. -/
lemma Meets.eq (h : Meets root a t) (h' : Meets root a t') : t = t' :=
  Option.some.inj (Except.ok.inj (h.symm.trans h'))

/-- When a member has a property. -/
lemma property_eq_ok_iff :
    property sch m = .ok sub ↔
      lookup? (sch.entries .properties) m.name = some sub ∧
        (m.omitted = true ∨ m.name ∈ sch.required) := by
  rw [property]
  cases lookup? (sch.entries .properties) m.name with
  | none => simp
  | some other => cases homitted : m.omitted <;> by_cases hreq : m.name ∈ sch.required <;> simp [hreq]

/-- When a shape without parts is accepted. -/
lemma leaf_eq_ok_iff : leaf t s path = .ok () ↔ fits t.kind s = .ok () := by
  refine ⟨fits_of_leaf, fun h => ?_⟩
  rw [leaf, h]

/-- When every property has a field.

**Proof sketch.** The search is for a property whose name is not among those of the fields. It finds
one, which then has no field, or it finds none. -/
lemma leftover_eq_ok_iff :
    leftover sch fields path = .ok () ↔
      ∀ name ∈ propertyNames sch, ∃ l ∈ fields.map (·.1), ∃ m, l.member? = some m ∧ m.name = name := by
  have hnames : ∀ name, name ∈ fields.filterMap (fun f => f.1.member?.map (·.name)) ↔
      ∃ l ∈ fields.map (·.1), ∃ m, l.member? = some m ∧ m.name = name := by
    intro name
    simp only [List.mem_filterMap, Option.map_eq_some_iff, List.mem_map, exists_exists_and_eq_and]
  simp only [← hnames, leftover]
  split
  · next name hfind =>
    refine iff_of_false nofun fun hall => ?_
    have hmissing := List.find?_some hfind
    rw [List.contains_iff_mem.2 (hall name (List.mem_of_find?_eq_some hfind))] at hmissing
    cases hmissing
  · next hnone =>
    refine iff_of_true rfl fun name hname => ?_
    simpa using List.find?_eq_none.1 hnone name hname

/-- When the fields of a record are accepted: each of them by itself.

**Proof sketch.** By induction on the fields. The walk goes on after a field without a member, and
after one that has a property and is accepted there. -/
lemma walkFields_eq_ok_iff :
    walkFields root sch fields p path = .ok () ↔
      ∀ l s, (l, s) ∈ fields → ∀ m, l.member? = some m → ∃ sub, property sch m = .ok sub ∧
        Accepted root ⟨s, p, .member m.name :: path, .arrival sub.schema? m.omitted⟩ := by
  induction fields with
  | nil => exact iff_of_true rfl nofun
  | cons field rest ih =>
    obtain ⟨label, shape⟩ := field
    have hcons : ∀ P : Label → Shape → Prop, (∀ l s, (l, s) ∈ (label, shape) :: rest → P l s) ↔
        P label shape ∧ ∀ l s, (l, s) ∈ rest → P l s := by
      intro P
      simp only [List.mem_cons, Prod.mk.injEq, or_imp, forall_and, and_imp, forall_eq_apply_imp_iff,
        forall_eq]
    rw [hcons, ← ih, walkFields]
    cases hmember : label.member? with
    | none => simp
    | some m =>
      simp only [Option.some.injEq, forall_eq']
      cases property sch m with
      | error cause => simp
      | ok sub =>
        simp only [Except.ok.injEq, exists_eq_left', Accepted]
        cases walk root shape p (.member m.name :: path) (.arrival sub.schema? m.omitted) with
        | error f => simp
        | ok u => simp

/-- From a spot with nothing to compare the walk goes nowhere. -/
lemma Next.meets (h : Next root a b) : ∃ t, Meets root a t := by
  cases h with
  | behind hmeets => exact ⟨_, hmeets⟩
  | named hmeets => exact ⟨_, hmeets⟩
  | slice hmeets => exact ⟨_, hmeets⟩
  | array hmeets => exact ⟨_, hmeets⟩
  | entry hmeets => exact ⟨_, hmeets⟩
  | field hmeets => exact ⟨_, hmeets⟩

/-- A shape that the walk goes on from has something inside. -/
lemma Next.hasInside (h : Next root a b) : hasInside a.shape = true := by
  cases h <;> rfl

/-- From other shapes the walk goes nowhere. -/
lemma not_next (h : hasInside a.shape = false) (b : Spot) : ¬ Next root a b := fun hb => by
  rw [hb.hasInside] at h
  cases h

/-! ## Acceptance, spot by spot -/

/-- Pointers, maps and records fit no kind. -/
lemma not_fits (hnumber : s.isNumber = false) (htext : s.isText = false)
    (hkind : s.kind ≠ Primitive.bool.name) : fits t.kind s ≠ .ok () := fun h =>
  leaf_ne_ok hnumber htext hkind (leaf_eq_ok_iff.2 h : leaf t s [] = .ok ())

/-- Maps agree with objects that admit other members. -/
lemma agrees_map_iff {stage : Stage} {elem : Shape} :
    Agrees t stage (.map elem) ↔ t.kind = .object ∧ isClosed t.schema = false := by
  refine ⟨fun h => ?_, fun h => .map h.1 h.2⟩
  cases h with
  | leaf hfits => exact absurd hfits (not_fits rfl rfl (show "map" ≠ Primitive.bool.name by decide))
  | map hkind hclosed => exact ⟨hkind, hclosed⟩

/-- Records agree with objects that have the same members. -/
lemma agrees_record_iff {stage : Stage} {waiver : Waiver} :
    Agrees t stage (.record waiver fields) ↔
      t.kind = .object ∧ Matches t.schema (fields.map (·.1)) := by
  refine ⟨fun h => ?_, fun h => .record h.1 h.2⟩
  cases h with
  | leaf hfits =>
    exact absurd hfits (not_fits rfl rfl (show "struct" ≠ Primitive.bool.name by decide))
  | record hkind hmatches => exact ⟨hkind, hmatches⟩

/-- Times agree with texts, and with objects that have no members. -/
lemma agrees_time_iff {stage : Stage} (hkind : t.kind = .object) :
    Agrees t stage .time ↔ Matches t.schema [] := by
  refine ⟨fun h => ?_, .time hkind⟩
  cases h with
  | leaf hfits =>
    rw [hkind] at hfits
    cases hfits
  | time _ hmatches => exact hmatches

/-- When labels fit properties, in the order in which the walk asks. -/
lemma matches_iff {labels : List Label} :
    Matches sch labels ↔ isOpen sch = false ∧
      (∀ l ∈ labels, ∀ m, l.member? = some m → ∃ sub, property sch m = .ok sub) ∧
      ∀ name ∈ propertyNames sch, ∃ l ∈ labels, ∃ m, l.member? = some m ∧ m.name = name :=
  ⟨fun h => ⟨h.isOpen, h.declared, h.met⟩, fun h => ⟨h.1, h.2.1, h.2.2⟩⟩

/-- Where the walk goes nowhere and only asks whether a shape fits, the shape has to fit. -/
lemma accepted_iff_of_leaf (hnext : ∀ b, ¬ Next root a b)
    (hwalk : walk root a.shape a.place a.path a.stage = leaf t a.shape a.path)
    (hagrees : Agrees t a.stage a.shape → fits t.kind a.shape = .ok ()) :
    Accepted root a ↔ Agrees t a.stage a.shape ∧ ∀ b, Next root a b → Accepted root b := by
  rw [Accepted, hwalk, leaf_eq_ok_iff]
  exact ⟨fun h => ⟨.leaf h, fun b hb => absurd hb (hnext b)⟩, fun h => hagrees h.1⟩

/-- A list is accepted if a schema for its items accepts them, if there is one.

**Proof sketch.** By cases on whether the target is that of a list. If it is, the schema for items
decides, where there is one. Otherwise the walk goes nowhere and the shape has to fit. -/
lemma accepted_iff_of_list {elem : Shape}
    (hnext : ∀ b, Next root a b ↔ t.kind = .array ∧ ∃ next, itemStage? t.schema = some next ∧
      b = ⟨elem, .fresh, .item :: a.path, next⟩)
    (hwalk : walk root a.shape a.place a.path a.stage = walkItems root elem t a.shape a.path)
    (hagrees : Agrees t a.stage a.shape ↔ t.kind = .array ∨ fits t.kind a.shape = .ok ()) :
    Accepted root a ↔ Agrees t a.stage a.shape ∧ ∀ b, Next root a b → Accepted root b := by
  rw [walkItems] at hwalk
  by_cases hkind : t.kind = .array
  · rw [hagrees]
    simp only [hkind, true_or, true_and] at hwalk hnext ⊢
    simp only [hnext]
    cases hitems : itemStage? t.schema with
    | none =>
      rw [hitems] at hwalk
      simp only [reduceCtorEq, false_and, exists_false, false_imp_iff, implies_true, iff_true]
      exact hwalk
    | some stage =>
      rw [hitems] at hwalk
      simp only [Option.some.injEq, exists_eq_left', forall_eq]
      exact Eq.congr_left hwalk
  · refine accepted_iff_of_leaf (fun b hb => hkind ((hnext b).1 hb).1) ?_
      fun h => (hagrees.1 h).resolve_left hkind
    rw [hwalk]
    cases hk : t.kind with
    | array => exact absurd hk hkind
    | null | boolean | integer | number | string | object => rfl

/-- A record is accepted if its fields are, and every property has a field. -/
lemma walk_record_eq_ok_iff {waiver : Waiver} {stage : Stage}
    (henter : enter root (.record waiver fields) p path stage = .ok (some t))
    (hkind : t.kind = .object) (hopen : isOpen t.schema = false) :
    walk root (.record waiver fields) p path stage = .ok () ↔
      walkFields root t.schema fields p path = .ok () ∧ leftover t.schema fields path = .ok () := by
  rw [walk, henter]
  simp only [hkind, hopen, if_true, Bool.false_eq_true, if_false]
  cases walkFields root t.schema fields p path <;> simp

/-! ## The cases of the walk -/

section

variable {stage : Stage} {elem : Shape} {waiver : Waiver}

/-- A pointer is accepted if what is behind it is; a pointer behind a pointer fits nothing.

**Proof sketch.** Before a target is known, the walk goes on with what is behind the pointer, in
front of the same target. A pointer in front of a target has to fit. -/
lemma accepted_pointer_iff {isSet : Bool} (hmeets : Meets root ⟨.pointer elem isSet, p, path, stage⟩ t) :
    Accepted root ⟨.pointer elem isSet, p, path, stage⟩ ↔ Agrees t stage (.pointer elem isSet) ∧
      ∀ b, Next root ⟨.pointer elem isSet, p, path, stage⟩ b → Accepted root b := by
  have henter : enter root (.pointer elem isSet) p path stage = .ok (some t) := hmeets
  cases stage with
  | arrival sch omitted =>
    rw [Accepted, walk, henter]
    refine ⟨fun h => ⟨.pointer, fun b hb => ?_⟩, fun h => h.2 _ (.behind hmeets)⟩
    cases hb with
    | behind hmeets' =>
      rw [← hmeets.eq hmeets']
      exact h
  | resolved target =>
    refine accepted_iff_of_leaf (fun b hb => by cases hb) (by rw [walk, henter]) ?_
    rintro ⟨⟩
    assumption

/-- A named shape is accepted if the shape that it names is, in front of the same target.

**Proof sketch.** The walk goes on with the shape that is named, at the same place and in the same
stage, and that is the only next spot. -/
lemma accepted_named_iff {base : Shape} (hmeets : Meets root ⟨.named waiver base, p, path, stage⟩ t) :
    Accepted root ⟨.named waiver base, p, path, stage⟩ ↔ Agrees t stage (.named waiver base) ∧
      ∀ b, Next root ⟨.named waiver base, p, path, stage⟩ b → Accepted root b := by
  have henter : enter root (.named waiver base) p path stage = .ok (some t) := hmeets
  rw [Accepted, walk, henter]
  refine ⟨fun h => ⟨.named, fun b hb => ?_⟩, fun h => h.2 _ (.named hmeets)⟩
  cases hb with
  | named hmeets' =>
    rw [← hmeets.eq hmeets']
    exact h

/-- A list without a fixed length is accepted if the schema of its items accepts them.

**Proof sketch.** The walk goes on with the items iff the target is that of a list and has a schema
for them. So `accepted_iff_of_list` applies. -/
lemma accepted_slice_iff (hmeets : Meets root ⟨.slice elem, p, path, stage⟩ t) :
    Accepted root ⟨.slice elem, p, path, stage⟩ ↔ Agrees t stage (.slice elem) ∧
      ∀ b, Next root ⟨.slice elem, p, path, stage⟩ b → Accepted root b := by
  have henter : enter root (.slice elem) p path stage = .ok (some t) := hmeets
  refine accepted_iff_of_list (fun b => ⟨fun hb => ?_, ?_⟩) (by rw [walk, henter]; rfl)
    ⟨fun h => ?_, fun h => h.elim .slice .leaf⟩
  · cases hb with
    | slice hmeets' hkind hnext =>
      rw [hmeets.eq hmeets']
      exact ⟨hkind, _, hnext, rfl⟩
  · rintro ⟨hkind, next, hnext, rfl⟩
    exact .slice hmeets hkind hnext
  · cases h with
    | leaf hfits => exact .inr hfits
    | slice hkind => exact .inl hkind

/-- A list of a fixed length is accepted if the schema of its items accepts them.

**Proof sketch.** The same as for lists without a fixed length. -/
lemma accepted_array_iff (hmeets : Meets root ⟨.array elem, p, path, stage⟩ t) :
    Accepted root ⟨.array elem, p, path, stage⟩ ↔ Agrees t stage (.array elem) ∧
      ∀ b, Next root ⟨.array elem, p, path, stage⟩ b → Accepted root b := by
  have henter : enter root (.array elem) p path stage = .ok (some t) := hmeets
  refine accepted_iff_of_list (fun b => ⟨fun hb => ?_, ?_⟩) (by rw [walk, henter]; rfl)
    ⟨fun h => ?_, fun h => h.elim .array .leaf⟩
  · cases hb with
    | array hmeets' hkind hnext =>
      rw [hmeets.eq hmeets']
      exact ⟨hkind, _, hnext, rfl⟩
  · rintro ⟨hkind, next, hnext, rfl⟩
    exact .array hmeets hkind hnext
  · cases h with
    | leaf hfits => exact .inr hfits
    | array hkind => exact .inl hkind

/-- From a map the walk goes to its values, if there is a schema for them.

**Proof sketch.** The only way on from a map is to its values, and the stage is determined by the
schema. -/
lemma next_map_iff (hmeets : Meets root ⟨.map elem, p, path, stage⟩ t) (b : Spot) :
    Next root ⟨.map elem, p, path, stage⟩ b ↔ t.kind = .object ∧
      ∃ next, entryStage? t.schema = some next ∧ b = ⟨elem, .fresh, .entry :: path, next⟩ := by
  constructor
  · intro hb
    cases hb with
    | entry hmeets' hkind hnext =>
      rw [hmeets.eq hmeets']
      exact ⟨hkind, _, hnext, rfl⟩
  · rintro ⟨hkind, next, hnext, rfl⟩
    exact .entry hmeets hkind hnext

/-- A map is accepted if the schema is that of an object that admits other members, and the schema of
these, if there is one, accepts the values.

**Proof sketch.** By cases on whether the target is that of an object, whether that admits other
members, and whether there is a schema for them. A map fits no other kind. -/
lemma accepted_map_iff (hmeets : Meets root ⟨.map elem, p, path, stage⟩ t) :
    Accepted root ⟨.map elem, p, path, stage⟩ ↔ Agrees t stage (.map elem) ∧
      ∀ b, Next root ⟨.map elem, p, path, stage⟩ b → Accepted root b := by
  have henter : enter root (.map elem) p path stage = .ok (some t) := hmeets
  rw [Accepted, walk, henter, agrees_map_iff]
  simp only [next_map_iff hmeets]
  by_cases hkind : t.kind = .object
  · cases hclosed : isClosed t.schema with
    | true => simp [hkind]
    | false =>
      cases hentry : entryStage? t.schema with
      | none => simp [hkind]
      | some next => simp [hkind, Accepted]
  · simp only [hkind, if_false, false_and, iff_false]
    rw [leaf_eq_ok_iff]
    exact not_fits rfl rfl (show "map" ≠ Primitive.bool.name by decide)

/-- The fields of a record are accepted, and every property has a field, iff the labels fit the
properties and the walk accepts every field that it goes to.

**Proof sketch.** A field that is written has a property iff its label is declared, and then the walk goes
to the spot of the field with the schema of this property. -/
lemma accepted_fields_iff (hmeets : Meets root ⟨.record waiver fields, p, path, stage⟩ t)
    (hkind : t.kind = .object) (hopen : isOpen t.schema = false) :
    walkFields root t.schema fields p path = .ok () ∧ leftover t.schema fields path = .ok () ↔
      Matches t.schema (fields.map (·.1)) ∧
        ∀ b, Next root ⟨.record waiver fields, p, path, stage⟩ b → Accepted root b := by
  rw [walkFields_eq_ok_iff, leftover_eq_ok_iff, matches_iff]
  simp only [hopen, true_and]
  constructor
  · rintro ⟨hfields, hmet⟩
    refine ⟨⟨fun l hl m hmember => ?_, hmet⟩, fun b hb => ?_⟩
    · obtain ⟨⟨l, s⟩, hfield, rfl⟩ := List.mem_map.1 hl
      obtain ⟨sub, hproperty, -⟩ := hfields l s hfield m hmember
      exact ⟨sub, hproperty⟩
    · cases hb with
      | field hmeets' _ hfield hmember hsub =>
        obtain ⟨sub, hproperty, haccepted⟩ := hfields _ _ hfield _ hmember
        rw [← hmeets.eq hmeets', lookup?_of_property hproperty] at hsub
        rw [← Option.some.inj hsub]
        exact haccepted
  · rintro ⟨⟨hdeclared, hmet⟩, hnext⟩
    refine ⟨fun l s hfield m hmember => ?_, hmet⟩
    obtain ⟨sub, hproperty⟩ := hdeclared l (List.mem_map_of_mem hfield) m hmember
    have hsub := lookup?_of_property hproperty
    exact ⟨sub, hproperty, hnext _ (.field hmeets hkind hfield hmember hsub)⟩

/-- A record is accepted if the schema is that of an object whose properties its labels fit, and the
walk accepts its fields.

**Proof sketch.** By cases on whether the target is that of an object, and whether that admits other
members, which is refused. Otherwise `accepted_fields_iff` says what is asked of the fields. -/
lemma accepted_record_iff (hmeets : Meets root ⟨.record waiver fields, p, path, stage⟩ t) :
    Accepted root ⟨.record waiver fields, p, path, stage⟩ ↔
      Agrees t stage (.record waiver fields) ∧
        ∀ b, Next root ⟨.record waiver fields, p, path, stage⟩ b → Accepted root b := by
  have henter : enter root (.record waiver fields) p path stage = .ok (some t) := hmeets
  rw [Accepted, agrees_record_iff]
  by_cases hkind : t.kind = .object
  · cases hopen : isOpen t.schema with
    | true =>
      rw [walk, henter, matches_iff]
      simp [hkind, hopen]
    | false =>
      rw [walk_record_eq_ok_iff henter hkind hopen, accepted_fields_iff hmeets hkind hopen]
      simp only [hkind, true_and]
  · rw [walk, henter]
    simp only [hkind, if_false, false_and, iff_false]
    rw [leaf_eq_ok_iff]
    exact not_fits rfl rfl (show "struct" ≠ Primitive.bool.name by decide)

/-- A time is accepted as a text, and as an object that asks for no members.

**Proof sketch.** In front of an object, a time is a record without fields. Otherwise it has to fit. -/
lemma accepted_time_iff (hmeets : Meets root ⟨.time, p, path, stage⟩ t) :
    Accepted root ⟨.time, p, path, stage⟩ ↔ Agrees t stage .time ∧
      ∀ b, Next root ⟨.time, p, path, stage⟩ b → Accepted root b := by
  have henter : enter root .time p path stage = .ok (some t) := hmeets
  have hnext : ∀ b, ¬ Next root ⟨.time, p, path, stage⟩ b := not_next rfl
  by_cases hkind : t.kind = .object
  · rw [Accepted, walk, henter, agrees_time_iff hkind, matches_iff]
    cases hopen : isOpen t.schema with
    | true => simp [hkind, hopen]
    | false => simp [hkind, hopen, leftover_eq_ok_iff, hnext]
  · refine accepted_iff_of_leaf hnext (by rw [walk, henter]; simp only [hkind, if_false]) ?_
    rintro ⟨⟩
    · assumption
    · contradiction

end

/-- **Where a shape is compared with a target**, it is accepted iff it agrees with the target and is
accepted wherever the walk goes from there.

**Proof sketch.** By cases on the shape, because for each one there is something else to look at. Shapes
that stand for any data agree with every target, and primitives and roles have to fit the kind. -/
lemma accepted_iff_of_meets (hmeets : Meets root a t) :
    Accepted root a ↔ Agrees t a.stage a.shape ∧ ∀ b, Next root a b → Accepted root b := by
  obtain ⟨s, p, path, stage⟩ := a
  have henter : enter root s p path stage = .ok (some t) := hmeets
  cases s with
  | anything =>
    rw [Accepted, walk, henter]
    exact iff_of_true rfl ⟨.anything, fun b hb => absurd hb (not_next rfl b)⟩
  | raw =>
    rw [Accepted, walk, henter]
    exact iff_of_true rfl ⟨.raw, fun b hb => absurd hb (not_next rfl b)⟩
  | primitive q =>
    refine accepted_iff_of_leaf (not_next rfl) (by rw [walk, henter]) ?_
    rintro ⟨⟩
    assumption
  | role =>
    refine accepted_iff_of_leaf (not_next rfl) (by rw [walk, henter]) ?_
    rintro ⟨⟩
    assumption
  | pointer elem isSet => exact accepted_pointer_iff hmeets
  | named waiver base => exact accepted_named_iff hmeets
  | slice elem => exact accepted_slice_iff hmeets
  | array elem => exact accepted_array_iff hmeets
  | map elem => exact accepted_map_iff hmeets
  | record waiver fields => exact accepted_record_iff hmeets
  | time => exact accepted_time_iff hmeets

/-! ## Acceptance along a way -/

/-- **A spot is accepted** iff nothing is wrong there and the walk accepts every spot it goes to next.

**Proof sketch.** By cases on what the shape is compared with. After a failure neither side holds. A
shape that is passed over is accepted, and the walk goes nowhere. In front of a target,
`accepted_iff_of_meets` applies. -/
theorem accepted_iff_next : Accepted root a ↔ Clean root a ∧ ∀ b, Next root a b → Accepted root b := by
  cases henter : enter root a.shape a.place a.path a.stage with
  | error f =>
    refine iff_of_false (fun h => ?_) ?_
    · rw [Accepted, walk, henter] at h
      cases h
    · rintro ⟨⟨met, hmet, -⟩, -⟩
      rw [henter] at hmet
      cases hmet
  | ok met =>
    cases met with
    | none =>
      refine iff_of_true (by rw [Accepted, walk, henter]) ⟨⟨none, henter, nofun⟩, fun b hb => ?_⟩
      obtain ⟨t, hmeets⟩ := hb.meets
      rw [Meets, henter] at hmeets
      cases hmeets
    | some t =>
      have hclean : Clean root a ↔ Agrees t a.stage a.shape := by
        simp only [Clean, henter, Except.ok.injEq, exists_eq_left', Option.some.injEq, forall_eq']
      rw [accepted_iff_of_meets henter, hclean]

/-- What is reached from an accepted spot is accepted. -/
lemma Accepted.reaches (ha : Accepted root a) (h : Reaches root a b) : Accepted root b := by
  induction h with
  | refl => exact ha
  | tail _ hnext ih => exact (accepted_iff_next.1 ih).2 _ hnext

end

end SchemaKit.Drift
