import Mathlib.Data.Option.Basic
import SchemaKit.Drift.Basic
import SchemaKit.Proofs.Schema.Placing

/-!
# References are transparent

A schema that refers to a definition of the root can be exchanged for the definition. The position may lie
in a definition that is used in many places, or in the very definition that is referred to; then the walk
meets the exchanged schema again and again, below itself and at every depth of the shape. So the schemas
before and after are compared not at one position, but by what the walk sees of them: whatever it sees in
one it sees in the other, up to schemas that are related in the same way.

## Main definitions

* `SchemaKit.Drift.Corresponds` — outcomes with the same fault, or with related results.
* `SchemaKit.Drift.Redone` — a schema in which something was replaced.
* `SchemaKit.Drift.Alike` — schemas that look alike to the walk.
* `SchemaKit.Drift.Stands` — a definition that is no reference and no choice itself.

## Main results

* `SchemaKit.Drift.Redone.alike` — a schema in which something was replaced looks alike.
* `SchemaKit.Drift.resolve_corresponds` — a reference and what it was replaced by have one target.
* `SchemaKit.Drift.walk_eq` — the walk ends alike.
* `SchemaKit.Drift.check_replaceAt` — a definition may stand where a schema refers to it.
-/

namespace SchemaKit.Drift

open Schema (Sub Via Key)

/-! ## Outcomes that correspond -/

/-- Two outcomes correspond: both are faults, and the same one, or both are results, and related. -/
inductive Corresponds {ε α β : Type} (R : α → β → Prop) : Except ε α → Except ε β → Prop
  | error (e : ε) : Corresponds R (.error e) (.error e)
  | ok {a : α} {b : β} (h : R a b) : Corresponds R (.ok a) (.ok b)

namespace Corresponds

variable {ε α β γ δ : Type} {R : α → β → Prop} {S : γ → δ → Prop} {x : Except ε α} {y : Except ε β}

/-- What is done next with related results corresponds. -/
lemma bind {f : α → Except ε γ} {g : β → Except ε δ} (h : Corresponds R x y)
    (hnext : ∀ a b, R a b → Corresponds S (f a) (g b)) : Corresponds S (x >>= f) (y >>= g) := by
  cases h with
  | error e => exact .error e
  | ok h => exact hnext _ _ h

/-- What is made of related results is related. -/
lemma map {f : α → γ} {g : β → δ} (h : Corresponds R x y) (hmap : ∀ a b, R a b → S (f a) (g b)) :
    Corresponds S (x.map f) (y.map g) := by
  cases h with
  | error e => exact .error e
  | ok h => exact .ok (hmap _ _ h)

/-- Steps that correspond, one after the other. -/
lemma foldlM {f : α → γ → Except ε α} {g : β → γ → Except ε β}
    (hstep : ∀ a b c, R a b → Corresponds R (f a c) (g b c)) (cs : List γ) {a : α} {b : β}
    (h : R a b) : Corresponds R (cs.foldlM f a) (cs.foldlM g b) := by
  induction cs generalizing a b with
  | nil => exact .ok h
  | cons c rest ih =>
    rw [List.foldlM_cons, List.foldlM_cons]
    exact (hstep a b c h).bind fun a b h => ih h

end Corresponds

/-! ## Schemas that are alike -/

section

variable (ref : String) (d : Schema)

/-- The second schema is the first one, except that below some properties, items, further members or
definitions of it, something that refers to `ref` may have been replaced by `d`. -/
inductive Redone : Schema → Schema → Prop
  | same (s : Schema) : Redone s s
  | here {v : Via} {s t : Schema} (hv : v.isDefinition = false) (hat : v.at? s = some t)
      (href : t.text? .ref = some ref) : Redone s (v.putAt d s)
  | deeper {v : Via} {s t t' : Schema} (hat : v.at? s = some t) (h : Redone t t') :
      Redone s (v.putAt t' s)

/-- The second schema stands at a place of the first one, in a schema that was redone. -/
def Placed (s s' : Schema) : Prop := Redone ref d s s' ∨ s.text? .ref = some ref ∧ s' = d

/-- What stands at a place, in a schema and in one that was redone. -/
inductive Held : Sub → Sub → Prop
  | same (sub : Sub) : Held sub sub
  | schema {s s' : Schema} (h : Placed ref d s s') : Held (.schema s) (.schema s')

/-- How the walk sees two schemas of which the second one was redone. -/
structure Alike (s s' : Schema) : Prop where
  /-- What they say apart from schemas is the same. -/
  part : ∀ k, (∀ v : Via, k ≠ v.key) → s'.part? k = s.part? k
  /-- The names of properties are the same. -/
  names : propertyNames s' = propertyNames s
  /-- The same steps are possible. -/
  held : ∀ v : Via, Option.Rel (Held ref d) (v.sub? s) (v.sub? s')
  /-- Definitions were redone. -/
  definition : ∀ name, Option.Rel (Redone ref d) ((Via.definition name).at? s)
    ((Via.definition name).at? s')

end

section

variable {ref : String} {d s s' t t' : Schema} {v : Via}

/-- Nothing was redone. -/
lemma Alike.refl (ref : String) (d s : Schema) : Alike ref d s s where
  part _ _ := rfl
  names := rfl
  held v := by cases v.sub? s <;> constructor; exact .same _
  definition name := by cases (Via.definition name).at? s <;> constructor; exact .same _

/-- The schema behind one step was redone.

**Proof sketch.** Only what stands behind the step was changed. At this step there is what was put
there, and at any other one the schema is as it was; the same holds for definitions. -/
lemma alike_putAt (hat : v.at? s = some t) (h : Placed ref d t t')
    (hdefinition : v.isDefinition = true → Redone ref d t t') : Alike ref d s (v.putAt t' s) where
  part k hk := Via.part?_putAt_of_ne t' s (hk v)
  names := Via.map_fst_entries_putAt v t' s .properties
  held w := by
    rw [Via.sub?_putAt hat]
    split
    · next hw =>
      rw [hw, Via.at?_eq_some_iff.1 hat]
      exact .some (.schema h)
    · exact (Alike.refl ref d s).held w
  definition name := by
    have hput := Via.sub?_putAt hat t' (.definition name)
    split at hput
    · next hw =>
      rw [hw, hat, Via.at?_eq_some_iff.2 (hw ▸ hput)]
      exact .some (hdefinition (hw ▸ rfl))
    · rw [Via.at?, Via.at?, hput]
      exact (Alike.refl ref d s).definition name

/-- **A schema that was redone looks alike.** -/
lemma Redone.alike (h : Redone ref d s s') : Alike ref d s s' := by
  cases h with
  | same => exact .refl ref d s
  | here hv hat href => exact alike_putAt hat (.inr ⟨href, rfl⟩) (by simp [hv])
  | deeper hat h => exact alike_putAt hat (.inl h) fun _ => h

/-! ## Views of schemas that are alike -/

namespace Alike

/-- References are the same. -/
lemma text?_ref (h : Alike ref d s s') : s'.text? .ref = s.text? .ref := by
  rw [Schema.text?, Schema.text?, h.part .ref (Via.ne_key (by decide))]

/-- Alternatives are the same. -/
lemma subs_oneOf (h : Alike ref d s s') : s'.subs .oneOf = s.subs .oneOf := by
  rw [Schema.subs, Schema.subs, h.part .oneOf (Via.ne_key (by decide))]

/-- Kinds are the same. -/
lemma kindOf_eq (h : Alike ref d s s') : kindOf s' = kindOf s := by
  rw [kindOf, kindOf, Schema.kindSpec?, Schema.kindSpec?,
    h.part .type (Via.ne_key (by decide))]

/-- Required names are the same. -/
lemma required_eq (h : Alike ref d s s') : s'.required = s.required := by
  rw [Schema.required, Schema.required, Schema.values, Schema.values,
    h.part .required (Via.ne_key (by decide))]

end Alike

/-- Places that correspond hold schemas that do, or none. -/
lemma Held.schema? {sub sub' : Sub} (h : Held ref d sub sub') :
    Option.Rel (Placed ref d) sub.schema? sub'.schema? := by
  cases h with
  | same sub =>
    cases sub with
    | schema s => exact .some (.inl (.same s))
    | truth | nothing | names => exact .none
  | schema h => exact .some h

end

/-! ## Targets -/

/-- Two targets differ at most in what was redone. -/
structure TargetAlike (ref : String) (d : Schema) (t t' : Target) : Prop where
  schema : Redone ref d t.schema t'.schema
  kind : t'.kind = t.kind
  nullable : t'.nullable = t.nullable

/-- Two stages of the walk differ at most in what was redone. -/
inductive StageAlike (ref : String) (d : Schema) : Stage → Stage → Prop
  | arrival {sch sch' : Option Schema} {omitted : Bool} (h : Option.Rel (Placed ref d) sch sch') :
      StageAlike ref d (.arrival sch omitted) (.arrival sch' omitted)
  | resolved {t t' : Target} (h : TargetAlike ref d t t') :
      StageAlike ref d (.resolved t) (.resolved t')

section

variable {root root' : Schema} {ref : String} {d : Schema} {s s' : Schema}

/-- A reference leads to corresponding definitions.

**Proof sketch.** A reference that does not lead to definitions fails on both sides. Otherwise it
leads to definitions with one name, which correspond. -/
lemma follow_corresponds (hroot : Redone ref d root root') (r : String) :
    Corresponds (Redone ref d) (follow root r) (follow root' r) := by
  rw [follow, follow]
  split
  · exact .error _
  · next name _ =>
    have hdefinition := hroot.alike.definition (String.ofList name)
    rw [Via.at?, Via.at?, Via.sub?_definition, Via.sub?_definition] at hdefinition
    generalize (Json.lookup? (root.entries .definitions) (String.ofList name)).bind Sub.schema? = x,
      (Json.lookup? (root'.entries .definitions) (String.ofList name)).bind Sub.schema? = y
      at hdefinition ⊢
    cases hdefinition with
    | none => exact .error _
    | some h => exact .ok h

/-- An alternative is taken alike.

**Proof sketch.** By the cases of an alternative: one that is no schema or has no reference changes
nothing, null admits null, and a reference leads to corresponding definitions. -/
lemma alternative_corresponds (hroot : Redone ref d root root') {acc acc' : Schema × Bool} (sub : Sub)
    (hacc : Redone ref d acc.1 acc'.1 ∧ acc'.2 = acc.2) :
    Corresponds (fun a b => Redone ref d a.1 b.1 ∧ b.2 = a.2) (alternative root acc sub)
      (alternative root' acc' sub) := by
  rw [alternative, alternative]
  split
  · exact .ok hacc
  · split
    · exact .ok ⟨hacc.1, rfl⟩
    · split
      · exact .ok hacc
      · exact (follow_corresponds hroot _).map fun a b h => ⟨h, hacc.2⟩

/-- Schemas that were redone are dereferenced alike. -/
lemma dereference_corresponds (hroot : Redone ref d root root') (h : Redone ref d s s') :
    Corresponds (fun a b => Redone ref d a.1 b.1 ∧ b.2 = a.2) (dereference root s)
      (dereference root' s') := by
  rw [dereference, dereference, h.alike.text?_ref, h.alike.subs_oneOf]
  split
  · exact (follow_corresponds hroot _).map fun a b h => ⟨h, rfl⟩
  · exact Corresponds.foldlM (fun a b sub hacc => alternative_corresponds hroot sub hacc) _ ⟨h, rfl⟩

/-- What a replaced schema refers to, and that it stands on its own. -/
structure Stands (root : Schema) (ref : String) (d : Schema) : Prop where
  /-- The reference leads to the schema. -/
  follow_eq : follow root ref = .ok d
  /-- The schema is no reference itself. -/
  text?_ref : d.text? .ref = none
  /-- The schema has no alternatives. -/
  subs_oneOf : d.subs .oneOf = []

/-- **What stands at a place is resolved alike**: a reference leads to what it was replaced by.

**Proof sketch.** Both schemas are behind references alike, or the second one is the definition
itself. Then the reference leads to the definition in the first root, and the definition is no
reference in the second one. What is reached has one kind on both sides. -/
lemma resolve_corresponds (hroot : Redone ref d root root') (hd : Stands root ref d)
    (h : Placed ref d s s') :
    Corresponds (TargetAlike ref d) (resolve root s) (resolve root' s') := by
  have hdereference : Corresponds (fun a b => Redone ref d a.1 b.1 ∧ b.2 = a.2) (dereference root s)
      (dereference root' s') := by
    rcases h with h | ⟨href, rfl⟩
    · exact dereference_corresponds hroot h
    · have hleft : dereference root s = .ok (s', false) := by
        simp only [dereference, href, hd.follow_eq]
        rfl
      have hright : dereference root' s' = .ok (s', false) := by
        simp only [dereference, hd.text?_ref, hd.subs_oneOf]
        rfl
      rw [hleft, hright]
      exact .ok ⟨.same s', rfl⟩
  refine hdereference.bind ?_
  rintro ⟨a, nullable⟩ ⟨b, _⟩ ⟨hab, rfl⟩
  dsimp only at hab ⊢
  rw [hab.alike.kindOf_eq]
  cases kindOf a with
  | error cause => exact .error cause
  | ok k => exact .ok ⟨hab, rfl, rfl⟩

/-- **What a shape is compared with corresponds.**

**Proof sketch.** Whether the shape is passed over depends on the shape alone. Otherwise there is no
schema on either side, or two that are resolved alike, and whether a pointer is let in depends on
what corresponds. -/
lemma enter_corresponds (hroot : Redone ref d root root') (hd : Stands root ref d) (shape : Shape)
    (p : Place) (path : Path) {stage stage' : Stage} (h : StageAlike ref d stage stage') :
    Corresponds (Option.Rel (TargetAlike ref d)) (enter root shape p path stage)
      (enter root' shape p path stage') := by
  cases h with
  | resolved h => exact .ok (.some h)
  | @arrival sch sch' omitted h =>
    have hsame : Corresponds (fun (b b' : Bool) => b' = b) (waived shape p) (waived shape p) := by
      cases waived shape p with
      | error f => exact .error f
      | ok b => exact .ok rfl
    refine hsame.bind fun b b' hb => ?_
    subst hb
    split
    · exact .ok .none
    · cases h with
      | none =>
        dsimp only
        split
        · exact .error _
        · exact .ok .none
      | some h =>
        have hresolve := resolve_corresponds hroot hd h
        dsimp only
        generalize resolve root _ = x, resolve root' _ = y at hresolve ⊢
        cases hresolve with
        | error cause => exact .error _
        | ok ht =>
          dsimp only
          rw [ht.nullable]
          split
          · exact .error _
          · exact .ok (.some ht)

/-- The schemas of items correspond. -/
lemma itemStage?_alike (h : Redone ref d s s') :
    Option.Rel (StageAlike ref d) (itemStage? s) (itemStage? s') := by
  have hheld := h.alike.held .items
  rw [Via.sub?_items, Via.sub?_items] at hheld
  rw [itemStage?, itemStage?]
  generalize s.sub? .items = x, s'.sub? .items = y at hheld ⊢
  cases hheld with
  | none => exact .none
  | some h => exact .some (.arrival h.schema?)

/-- What stands at further members corresponds. -/
lemma held_additional (h : Redone ref d s s') :
    Option.Rel (Held ref d) (s.sub? .additionalProperties) (s'.sub? .additionalProperties) := by
  have hheld := h.alike.held .entries
  rwa [Via.sub?_entries, Via.sub?_entries] at hheld

/-- The schemas of the values of a map correspond.

**Proof sketch.** What stands at further members corresponds, so that either there is a schema on
both sides or there is none. -/
lemma entryStage?_alike (h : Redone ref d s s') :
    Option.Rel (StageAlike ref d) (entryStage? s) (entryStage? s') := by
  have hheld := held_additional h
  rw [entryStage?, entryStage?]
  generalize s.sub? .additionalProperties = x, s'.sub? .additionalProperties = y at hheld ⊢
  cases hheld with
  | none => exact .none
  | @some sub sub' h =>
    have hschema := h.schema?
    rw [Option.bind_some, Option.bind_some]
    generalize sub.schema? = x, sub'.schema? = y at hschema ⊢
    cases hschema with
    | none => exact .none
    | some h => exact .some (.arrival (.some h))

/-- Whether other members are admitted stays. -/
lemma isOpen_eq (h : Redone ref d s s') : isOpen s' = isOpen s := by
  have hheld := held_additional h
  rw [isOpen, isOpen]
  generalize s.sub? .additionalProperties = x, s'.sub? .additionalProperties = y at hheld ⊢
  cases hheld with
  | none => rfl
  | some h => cases h <;> rfl

/-- Whether other members are forbidden stays. -/
lemma isClosed_eq (h : Redone ref d s s') : isClosed s' = isClosed s := by
  have hheld := held_additional h
  rw [isClosed, isClosed]
  generalize s.sub? .additionalProperties = x, s'.sub? .additionalProperties = y at hheld ⊢
  cases hheld with
  | none => rfl
  | some h => cases h <;> rfl

/-- Members belong to corresponding properties.

**Proof sketch.** The properties with the name of the member correspond, and the required names are
the same. -/
lemma property_corresponds (h : Redone ref d s s') (m : Member) :
    Corresponds (Held ref d) (property s m) (property s' m) := by
  have hheld := h.alike.held (.property m.name)
  rw [Via.sub?_property, Via.sub?_property] at hheld
  rw [property, property, h.alike.required_eq]
  generalize Json.lookup? (s.entries .properties) m.name = x,
    Json.lookup? (s'.entries .properties) m.name = y at hheld ⊢
  cases hheld with
  | none => exact .error _
  | some h =>
    dsimp only
    split
    · exact .error _
    · exact .ok h

/-- The first property without a field stays. -/
lemma leftover_eq (h : Redone ref d s s') (fields : List (Label × Shape)) (path : Path) :
    leftover s' fields path = leftover s fields path := by
  rw [leftover, leftover, h.alike.names]

/-- Whether a shape without parts is accepted stays. -/
lemma leaf_eq {t t' : Target} (h : TargetAlike ref d t t') (shape : Shape) (path : Path) :
    leaf t' shape path = leaf t shape path := by
  rw [leaf, leaf, h.kind]

end

/-! ## The walk -/

section

variable {root root' : Schema} {ref : String} {d : Schema}

/-- The walk ends alike if it does where a shape is compared with targets.

**Proof sketch.** What the shape is compared with corresponds. If that is a failure or nothing, the
walk ends at once on both sides. -/
lemma walk_eq_of_targets (hroot : Redone ref d root root') (hd : Stands root ref d) {shape : Shape}
    {p : Place} {path : Path} {stage stage' : Stage} (h : StageAlike ref d stage stage')
    (htargets : ∀ t t', enter root shape p path stage = .ok (some t) →
      enter root' shape p path stage' = .ok (some t') → TargetAlike ref d t t' →
      walk root' shape p path stage' = walk root shape p path stage) :
    walk root' shape p path stage' = walk root shape p path stage := by
  have hcorresponds := enter_corresponds hroot hd shape p path h
  generalize henter : enter root shape p path stage = x,
    henter' : enter root' shape p path stage' = y at hcorresponds
  cases hcorresponds with
  | error f => rw [walk, walk, henter, henter']
  | ok hmet =>
    cases hmet with
    | none => rw [walk, walk, henter, henter']
    | some ht => exact htargets _ _ henter henter' ht

mutual

/-- **The walk ends alike**, with the same disagreement at the same place if there is one.

**Proof sketch.** By recursion over the shape. What the shape is compared with corresponds, and so does
everything that the walk goes on with: what lies behind a pointer, items, values and properties. -/
theorem walk_eq (hroot : Redone ref d root root') (hd : Stands root ref d) :
    ∀ (shape : Shape) {p : Place} {path : Path} {stage stage' : Stage},
      StageAlike ref d stage stage' → walk root' shape p path stage' = walk root shape p path stage
  | .primitive q, p, path, stage, stage', h => by
    refine walk_eq_of_targets hroot hd h fun t t' henter henter' ht => ?_
    rw [walk, walk, henter, henter']
    exact leaf_eq ht _ path
  | .anything, p, path, stage, stage', h => by
    refine walk_eq_of_targets hroot hd h fun t t' henter henter' _ => ?_
    rw [walk, walk, henter, henter']
  | .raw, p, path, stage, stage', h => by
    refine walk_eq_of_targets hroot hd h fun t t' henter henter' _ => ?_
    rw [walk, walk, henter, henter']
  | .time, p, path, stage, stage', h => by
    refine walk_eq_of_targets hroot hd h fun t t' henter henter' ht => ?_
    rw [walk, walk, henter, henter']
    dsimp only
    rw [ht.kind, isOpen_eq ht.schema, leftover_eq ht.schema, leaf_eq ht]
  | .role, p, path, stage, stage', h => by
    refine walk_eq_of_targets hroot hd h fun t t' henter henter' ht => ?_
    rw [walk, walk, henter, henter']
    exact leaf_eq ht _ path
  | .pointer elem isSet, p, path, stage, stage', h => by
    refine walk_eq_of_targets hroot hd h fun t t' henter henter' ht => ?_
    rw [walk, walk, henter, henter']
    cases h with
    | arrival => exact walk_eq hroot hd elem (.resolved ht)
    | resolved => exact leaf_eq ht _ path
  | .named waiver base, p, path, stage, stage', h => by
    refine walk_eq_of_targets hroot hd h fun t t' henter henter' ht => ?_
    rw [walk, walk, henter, henter']
    exact walk_eq hroot hd base (.resolved ht)
  | .slice elem, p, path, stage, stage', h => by
    refine walk_eq_of_targets hroot hd h fun t t' henter henter' ht => ?_
    rw [walk, walk, henter, henter']
    have hitems := itemStage?_alike ht.schema
    dsimp only
    rw [ht.kind, leaf_eq ht]
    generalize itemStage? t.schema = x, itemStage? t'.schema = y at hitems ⊢
    cases hitems with
    | none => cases t.kind <;> rfl
    | some hstage =>
      cases t.kind with
      | array => exact walk_eq hroot hd elem hstage
      | null | boolean | integer | number | string | object => rfl
  | .array elem, p, path, stage, stage', h => by
    refine walk_eq_of_targets hroot hd h fun t t' henter henter' ht => ?_
    rw [walk, walk, henter, henter']
    have hitems := itemStage?_alike ht.schema
    dsimp only
    rw [ht.kind, leaf_eq ht]
    generalize itemStage? t.schema = x, itemStage? t'.schema = y at hitems ⊢
    cases hitems with
    | none => cases t.kind <;> rfl
    | some hstage =>
      cases t.kind with
      | array => exact walk_eq hroot hd elem hstage
      | null | boolean | integer | number | string | object => rfl
  | .map elem, p, path, stage, stage', h => by
    refine walk_eq_of_targets hroot hd h fun t t' henter henter' ht => ?_
    rw [walk, walk, henter, henter']
    have hentry := entryStage?_alike ht.schema
    dsimp only
    rw [ht.kind, isClosed_eq ht.schema, ht.schema.alike.names, leaf_eq ht]
    generalize entryStage? t.schema = x, entryStage? t'.schema = y at hentry ⊢
    cases hentry with
    | none => rfl
    | some hstage =>
      dsimp only
      rw [walk_eq hroot hd elem hstage]
  | .record waiver fields, p, path, stage, stage', h => by
    refine walk_eq_of_targets hroot hd h fun t t' henter henter' ht => ?_
    rw [walk, walk, henter, henter']
    dsimp only
    rw [ht.kind, isOpen_eq ht.schema, leftover_eq ht.schema, leaf_eq ht,
      walkFields_eq hroot hd fields ht.schema]

/-- The fields of a record, one by one.

**Proof sketch.** By recursion on the fields. Their properties correspond, so the walk ends alike in
each of them. -/
theorem walkFields_eq (hroot : Redone ref d root root') (hd : Stands root ref d) :
    ∀ (fields : List (Label × Shape)) {p : Place} {path : Path} {s s' : Schema}, Redone ref d s s' →
      walkFields root' s' fields p path = walkFields root s fields p path
  | [], _, _, _, _, _ => rfl
  | (label, shape) :: rest, p, path, s, s', h => by
    have hrest : walkFields root' s' rest p path = walkFields root s rest p path :=
      walkFields_eq hroot hd rest h
    rw [walkFields, walkFields]
    cases label.member? with
    | none => exact hrest
    | some m =>
      have hproperty := property_corresponds h m
      dsimp only
      generalize property s m = x, property s' m = y at hproperty ⊢
      cases hproperty with
      | error cause => rfl
      | ok hsub =>
        dsimp only
        rw [walk_eq hroot hd shape (.arrival hsub.schema?), hrest]

end

/-- **A check ends alike.**

**Proof sketch.** A whole that can be anything fails in either case, after its schema is resolved
alike. Any other whole is walked, and `walk_eq` applies. -/
lemma check_eq (hroot : Redone ref d root root') (hd : Stands root ref d) (s : Shape) :
    check root' s = check root s := by
  have hstage : StageAlike ref d (.arrival (some root) false) (.arrival (some root') false) :=
    .arrival (.some (.inl hroot))
  cases s with
  | anything =>
    have hresolve := resolve_corresponds hroot hd (.inl hroot)
    rw [check, check]
    generalize resolve root root = x, resolve root' root' = y at hresolve ⊢
    cases hresolve <;> rfl
  | primitive | raw | time | role | pointer | slice | array | map | record | named =>
    exact walk_eq hroot hd _ hstage

end

/-! ## Positions in a schema -/

/-- A schema with something else at a position was redone.

**Proof sketch.** By induction on the steps to the position: each step goes one schema deeper, and
at the last one there is the reference that is replaced. -/
lemma redone_replaceAt {ref : String} {d held : Schema} {v : Via} (hv : v.isDefinition = false)
    (href : held.text? .ref = some ref) {steps : List Via} {s : Schema}
    (hheld : Schema.at? (steps ++ [v]) s = some held) :
    Redone ref d s (Schema.replaceAt d (steps ++ [v]) s) := by
  induction steps generalizing s with
  | nil =>
    obtain ⟨t, hat, ht⟩ := Option.bind_eq_some_iff.1 hheld
    obtain rfl : t = held := Option.some.inj ht
    have hreplace : Schema.replaceAt d [v] s = v.putAt d s := by
      rw [Schema.replaceAt, hat]
      rfl
    rw [List.nil_append, hreplace]
    exact .here hv hat href
  | cons w rest ih =>
    obtain ⟨t, hat, ht⟩ := Option.bind_eq_some_iff.1 hheld
    rw [List.cons_append, Schema.replaceAt, hat]
    exact .deeper hat (ih ht)

/-- A reference to a definition leads to it. -/
lemma follow_definition {root d : Schema} {name : String}
    (h : Json.lookup? (root.entries .definitions) name = some (.schema d)) :
    follow root (Schema.definitionsPath ++ name) = .ok d := by
  rw [follow, String.toList_append, Text.afterStart?_append]
  simp only [String.ofList_toList, h]
  rfl

/-- **References are transparent**: where a schema refers to a definition of the root, a copy of the
definition may stand instead, at any position that is reached through properties, items, further members
and definitions, and whatever else refers to the definition. The check ends alike, with the same
disagreement at the same place if there is one. The definition must not be a reference or a choice
itself.

**Proof sketch.** At the position the copy stands by `at?_replaceAt`. Everywhere else the schemas
are the same, and at the position the walk resolves the reference to the copy anyway, so the checks
agree by `check_eq`. -/
theorem check_replaceAt (root : Schema) (s : Shape) (steps : List Via) (v : Via) {held d : Schema}
    {name : String} (hv : v.isDefinition = false)
    (hheld : Schema.at? (steps ++ [v]) root = some held)
    (href : held.text? .ref = some (Schema.definitionsPath ++ name))
    (hdefinition : Json.lookup? (root.entries .definitions) name = some (.schema d))
    (hd : d.text? .ref = none) (hone : d.subs .oneOf = []) :
    Schema.at? (steps ++ [v]) (Schema.replaceAt d (steps ++ [v]) root) = some d ∧
      check (Schema.replaceAt d (steps ++ [v]) root) s = check root s :=
  ⟨Schema.at?_replaceAt hheld,
    check_eq (redone_replaceAt hv href hheld) ⟨follow_definition hdefinition, hd, hone⟩ s⟩

/-- A schema that refers to the nodes of a chain. -/
def toNode : Schema := .mk [(.ref, .data (.str "#/definitions/Node"))] []

/-- The nodes of a chain: each may be followed by another one. -/
def node : Schema :=
  .mk [(.required, .data (.arr [.str "next"])), (.properties, .named [("next", .schema toNode)]),
    (.type, .data (.arr [.str "object", .str "null"]))] []

/-- A schema of chains. -/
def chain : Schema :=
  .mk [(.required, .data (.arr [.str "next"])), (.definitions, .named [("Node", .schema node)]),
    (.properties, .named [("next", .schema toNode)]), (.type, .data (.str "object"))] []

/-- Records behind pointers, with a text behind the last one. -/
def chained : Nat → Shape
  | 0 => .primitive .string
  | n + 1 => .record .none [(⟨"Next", "json:\"next\""⟩, .pointer (chained n) false)]

/-- In the definition of nodes, the reference of the definition to itself may be replaced. The check still
finds the text where the third node should be.

**Proof sketch.** The reference stands at the position and leads to the definition, which is no
reference itself, so that the general statement applies. The fault is found by evaluation. -/
theorem check_replaceAt_chain :
    check (Schema.replaceAt node [.definition "Node", .property "next"] chain) (chained 3) =
        check chain (chained 3) ∧
      check chain (chained 3) = .error (.found [.member "next", .member "next", .member "next"]
        (.wrongKind "string" .members)) := by
  have hfault : check chain (chained 3) = .error (.found
      [.member "next", .member "next", .member "next"] (.wrongKind "string" .members)) := by
    decide +kernel
  have hheld : Schema.at? [.definition "Node", .property "next"] chain = some toNode := by rfl
  have href : toNode.text? .ref = some (Schema.definitionsPath ++ "Node") := by rfl
  have hdefinition : Json.lookup? (chain.entries .definitions) "Node" = some (.schema node) := by rfl
  obtain ⟨-, hcheck⟩ := check_replaceAt chain (chained 3) [.definition "Node"] (.property "next") rfl
    hheld href hdefinition rfl rfl
  exact ⟨hcheck, hfault⟩

end SchemaKit.Drift
