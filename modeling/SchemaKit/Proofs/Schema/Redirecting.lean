import Mathlib.Data.List.Basic
import Mathlib.Tactic.Common
import SchemaKit.Proofs.Json.Sorted
import SchemaKit.Schema.Refs

/-!
# Redirected references

The walk that redirects the references of a schema goes into definitions first, and from there below
the keys that are walked. Where it comes by, a reference leads into the components of a document
afterwards; a reference beside its way, and whatever is no reference, stays as it is. A second walk
comes by the same places and finds references that are redirected already.

## Main definitions

* `SchemaKit.Schema.Path`, `SchemaKit.Schema.along?` — ways from a schema to those inside it, and the
  schema at the end of one.
* `SchemaKit.Schema.isVisited` — whether the walk goes along a path.
* `SchemaKit.Schema.refAt?` — the reference of the schema at the end of a path.
* `SchemaKit.Schema.blanked` — a schema whose references are all blank.

## Main results

* `SchemaKit.Schema.induct_held` — induction on the schemas that a schema holds.
* `SchemaKit.Schema.mapRefs_mapRefs` — walking twice is walking once.
* `SchemaKit.Schema.blanked_mapRefs` — nothing but references changes.
* `SchemaKit.Schema.refAt?_mapRefs` — which references change.
* `SchemaKit.Schema.localized_redirects` — what becomes of a schema whose references are redirected.

## Design

Definitions by recursion on schemas have a companion for each place where schemas stand. Here they are
read as one map over the schemas that a part holds, so that a proof about all schemas is one induction.
-/

namespace SchemaKit.Schema

/-! ## The schemas inside a part -/

/-- A recursion that treats the entries of a list one by one is a map. -/
lemma eq_map_of_cons {α β : Type} {F : List α → List β} {φ : α → β} (hnil : F [] = [])
    (hcons : ∀ a rest, F (a :: rest) = φ a :: F rest) (l : List α) : F l = l.map φ := by
  induction l with
  | nil => exact hnil
  | cons a rest ih => rw [hcons, ih, List.map_cons]

/-- What stands at a place, with its schema replaced. -/
def Sub.map (φ : Schema → Schema) : Sub → Sub
  | .schema s => .schema (φ s)
  | sub => sub

/-- A part with all its schemas replaced. -/
def Part.map (φ : Schema → Schema) : Part → Part
  | .data v => .data v
  | .one sub => .one (sub.map φ)
  | .list subs => .list (subs.map (Sub.map φ))
  | .named entries => .named (entries.map fun e => (e.1, e.2.map φ))

/-- The schemas that a part holds. -/
def Part.held : Part → List Schema
  | .data _ => []
  | .one sub => sub.schema?.toList
  | .list subs => subs.filterMap Sub.schema?
  | .named entries => entries.filterMap fun e => e.2.schema?

section

variable {φ ψ : Schema → Schema}

/-- Two replacements one after the other. -/
lemma Sub.map_map (sub : Sub) : (sub.map ψ).map φ = sub.map (φ ∘ ψ) := by
  cases sub <;> rfl

/-- Replacements that agree on the schema at a place. -/
lemma Sub.map_congr {sub : Sub} (h : ∀ s ∈ sub.schema?, φ s = ψ s) : sub.map φ = sub.map ψ := by
  cases sub with
  | schema s => exact congrArg Sub.schema (h s rfl)
  | truth | nothing | names => rfl

/-- Two replacements one after the other. -/
lemma Part.map_map (p : Part) : (p.map ψ).map φ = p.map (φ ∘ ψ) := by
  cases p with
  | data v => rfl
  | one sub => exact congrArg Part.one sub.map_map
  | list subs =>
    simp only [Part.map, List.map_map]
    exact congrArg Part.list (List.map_congr_left fun sub _ => sub.map_map)
  | named entries =>
    simp only [Part.map, List.map_map]
    exact congrArg Part.named (List.map_congr_left fun e _ => congrArg (e.1, ·) e.2.map_map)

/-- Replacements that agree on the schemas that a part holds.

**Proof sketch.** By the kind of part: the schemas that it holds are all that is replaced. -/
lemma Part.map_congr {p : Part} (h : ∀ s ∈ p.held, φ s = ψ s) : p.map φ = p.map ψ := by
  cases p with
  | data v => rfl
  | one sub =>
    refine congrArg Part.one (Sub.map_congr fun s hs => h s ?_)
    simpa [Part.held] using hs
  | list subs =>
    refine congrArg Part.list (List.map_congr_left fun sub hsub => Sub.map_congr fun s hs => h s ?_)
    exact List.mem_filterMap.2 ⟨sub, hsub, hs⟩
  | named entries =>
    refine congrArg Part.named (List.map_congr_left fun e he => congrArg (e.1, ·) ?_)
    exact Sub.map_congr fun s hs => h s (List.mem_filterMap.2 ⟨e, he, hs⟩)

/-- Two replacements one after the other that come to one on the schemas that a part holds. -/
lemma Part.map_map_of_held {χ : Schema → Schema} {p : Part} (h : ∀ s ∈ p.held, φ (ψ s) = χ s) :
    (p.map ψ).map φ = p.map χ := by
  rw [Part.map_map]
  exact Part.map_congr h

end

/-- A property that a schema has whenever all schemas in its parts have it. -/
def IsInductive (P : Schema → Prop) : Prop :=
  ∀ parts extra, (∀ e ∈ parts, ∀ s ∈ Part.held e.2, P s) → P (.mk parts extra)

section

variable {P : Schema → Prop}

mutual

/-- **Induction on what schemas hold**: such a property is one of all schemas. -/
theorem induct_held (h : IsInductive P) (s : Schema) : P s := by
  match s with
  | .mk parts extra => exact h parts extra (induct_parts h parts)

/-- Part by part. -/
theorem induct_parts (h : IsInductive P) (parts : List (Key × Part)) :
    ∀ e ∈ parts, ∀ s ∈ e.2.held, P s := by
  match parts with
  | [] => exact nofun
  | (k, p) :: rest => exact List.forall_mem_cons.2 ⟨induct_part h p, induct_parts h rest⟩

/-- The schemas of a part.

**Proof sketch.** By the kind of part, with one lemma for each of them. -/
theorem induct_part (h : IsInductive P) (p : Part) : ∀ s ∈ p.held, P s := by
  match p with
  | .data _ => exact nofun
  | .one sub => simpa [Part.held] using induct_sub h sub
  | .list subs =>
    intro s hs
    obtain ⟨sub, hsub, hs⟩ := List.mem_filterMap.1 hs
    exact induct_subs h subs sub hsub s hs
  | .named entries =>
    intro s hs
    obtain ⟨e, he, hs⟩ := List.mem_filterMap.1 hs
    exact induct_named h entries e he s hs

/-- The schema at a place. -/
theorem induct_sub (h : IsInductive P) (sub : Sub) : ∀ s ∈ sub.schema?, P s := by
  match sub with
  | .schema s =>
    rintro _ ⟨⟩
    exact induct_held h s
  | .truth _ | .nothing | .names _ => exact nofun

/-- Place by place. -/
theorem induct_subs (h : IsInductive P) (subs : List Sub) : ∀ sub ∈ subs, ∀ s ∈ sub.schema?, P s := by
  match subs with
  | [] => exact nofun
  | sub :: rest => exact List.forall_mem_cons.2 ⟨induct_sub h sub, induct_subs h rest⟩

/-- Place by place. -/
theorem induct_named (h : IsInductive P) (entries : List (String × Sub)) :
    ∀ e ∈ entries, ∀ s ∈ e.2.schema?, P s := by
  match entries with
  | [] => exact nofun
  | (name, sub) :: rest => exact List.forall_mem_cons.2 ⟨induct_sub h sub, induct_named h rest⟩

end

end

/-! ## The walk -/

section

variable {f g : String → String} {outer : Bool}

/-- What the walk makes of the part of a key. -/
def redirected (f : String → String) (outer : Bool) (k : Key) (p : Part) : Part :=
  if k = .ref then mapData f p
  else if k.isWalked then p.map (mapRefs f false)
  else if outer && k = .definitions then p.map (mapRefs f true)
  else p

/-- The walk through the schemas of a part replaces them all. -/
lemma mapPart_eq_map (p : Part) : mapPart f outer p = p.map (mapRefs f outer) := by
  have hsub (sub : Sub) : mapSub f outer sub = sub.map (mapRefs f outer) := by cases sub <;> rfl
  cases p with
  | data v => rfl
  | one sub => exact congrArg Part.one (hsub sub)
  | list subs =>
    exact congrArg Part.list (eq_map_of_cons rfl (fun sub rest => by rw [mapSubs, hsub]) subs)
  | named entries =>
    exact congrArg Part.named (eq_map_of_cons rfl (fun e rest => by rw [mapNamed, hsub]) entries)

/-- The walk goes part by part. -/
lemma mapRefs_mk (parts : List (Key × Part)) (extra : List (String × Json)) :
    mapRefs f outer (.mk parts extra) =
      .mk (parts.map fun e => (e.1, redirected f outer e.1 e.2)) extra := by
  rw [mapRefs, eq_map_of_cons (F := mapParts f outer) rfl fun e rest => ?_]
  rw [mapParts, redirected, ← mapPart_eq_map, ← mapPart_eq_map]

/-- A reference that is redirected twice. -/
lemma mapData_mapData (p : Part) : mapData f (mapData g p) = mapData (f ∘ g) p := by
  match p with
  | .data (.str r) => rfl
  | .data .null | .data (.bool _) | .data (.num _) | .data (.arr _) | .data (.obj _) => rfl
  | .one _ | .list _ | .named _ => rfl

/-- **Walking twice** redirects every reference twice.

**Proof sketch.** Induction on the schema: by assumption it holds of the schemas in its parts, and a
reference is redirected twice by `mapData_mapData`. -/
theorem mapRefs_mapRefs (f g : String → String) (s : Schema) (outer : Bool) :
    mapRefs f outer (mapRefs g outer s) = mapRefs (f ∘ g) outer s := by
  refine induct_held (P := fun s => ∀ outer, mapRefs f outer (mapRefs g outer s) =
    mapRefs (f ∘ g) outer s) (fun parts extra ih outer => ?_) s outer
  rw [mapRefs_mk, mapRefs_mk, mapRefs_mk, List.map_map]
  congr 1
  refine List.map_congr_left fun e he => congrArg (e.1, ·) ?_
  have hwalked (outer : Bool) :
      (e.2.map (mapRefs g outer)).map (mapRefs f outer) = e.2.map (mapRefs (f ∘ g) outer) :=
    Part.map_map_of_held fun s hs => ih e he s hs outer
  simp only [redirected]
  split_ifs
  · exact mapData_mapData e.2
  · exact hwalked false
  · exact hwalked true
  · rfl

end

/-! ## What is no reference -/

mutual

/-- A schema with all its references blank, at any depth and below any key. -/
def blanked : Schema → Schema
  | .mk parts extra => .mk (blankedParts parts) extra

/-- Part by part. -/
def blankedParts : List (Key × Part) → List (Key × Part)
  | [] => []
  | (k, p) :: rest =>
    (k, if k = .ref then mapData (fun _ => "") p else blankedPart p) :: blankedParts rest

/-- The schemas of a part. -/
def blankedPart : Part → Part
  | .data v => .data v
  | .one sub => .one (blankedSub sub)
  | .list subs => .list (blankedSubs subs)
  | .named entries => .named (blankedNamed entries)

/-- The schema at a place. -/
def blankedSub : Sub → Sub
  | .schema s => .schema (blanked s)
  | sub => sub

/-- Place by place. -/
def blankedSubs : List Sub → List Sub
  | [] => []
  | sub :: rest => blankedSub sub :: blankedSubs rest

/-- Place by place. -/
def blankedNamed : List (String × Sub) → List (String × Sub)
  | [] => []
  | (name, sub) :: rest => (name, blankedSub sub) :: blankedNamed rest

end

/-- The schemas of a part are all blanked. -/
lemma blankedPart_eq_map (p : Part) : blankedPart p = p.map blanked := by
  have hsub (sub : Sub) : blankedSub sub = sub.map blanked := by cases sub <;> rfl
  cases p with
  | data v => rfl
  | one sub => exact congrArg Part.one (hsub sub)
  | list subs =>
    exact congrArg Part.list (eq_map_of_cons rfl (fun sub rest => by rw [blankedSubs, hsub]) subs)
  | named entries =>
    exact congrArg Part.named (eq_map_of_cons rfl (fun e rest => by rw [blankedNamed, hsub]) entries)

/-- References are blanked part by part. -/
lemma blanked_mk (parts : List (Key × Part)) (extra : List (String × Json)) :
    blanked (.mk parts extra) =
      .mk (parts.map fun e =>
        (e.1, if e.1 = .ref then mapData (fun _ => "") e.2 else e.2.map blanked)) extra := by
  rw [blanked, eq_map_of_cons (F := blankedParts) rfl fun e rest => ?_]
  rw [blankedParts, blankedPart_eq_map]

/-- **Nothing but references changes**: once they are blank, it does not show whether they were
redirected before.

**Proof sketch.** Induction on the schema, as `mapRefs_mapRefs`. A reference that was redirected is
blank afterwards. -/
theorem blanked_mapRefs (f : String → String) (s : Schema) (outer : Bool) :
    (mapRefs f outer s).blanked = s.blanked := by
  refine induct_held (P := fun s => ∀ outer, (mapRefs f outer s).blanked = s.blanked)
    (fun parts extra ih outer => ?_) s outer
  rw [mapRefs_mk, blanked_mk, blanked_mk, List.map_map]
  congr 1
  refine List.map_congr_left fun e he => congrArg (e.1, ·) ?_
  have hwalked (outer : Bool) : (e.2.map (mapRefs f outer)).map blanked = e.2.map blanked :=
    Part.map_map_of_held fun s hs => ih e he s hs outer
  simp only [redirected]
  split_ifs
  · exact mapData_mapData e.2
  · exact hwalked false
  · exact hwalked true
  · rfl

/-! ## References along paths -/

/-- A place in a part: that of its only schema, the one at an index, or the one under a name. -/
inductive Place where
  | single
  | item (i : Nat)
  | entry (name : String)
  deriving DecidableEq

/-- A way from a schema to one inside it: the keys below which it leads, each with a place. -/
abbrev Path := List (Key × Place)

/-- What stands at a place of a part. -/
def Part.sub? : Part → Place → Option Sub
  | .one sub, .single => some sub
  | .list subs, .item i => subs[i]?
  | .named entries, .entry name => Json.lookup? entries name
  | _, _ => none

/-- The schema at a place below a key. -/
def below? (s : Schema) (k : Key) (place : Place) : Option Schema :=
  ((s.part? k).bind (·.sub? place)).bind Sub.schema?

/-- The schema at the end of a path. -/
def along? : Path → Schema → Option Schema
  | [], s => some s
  | (k, place) :: rest, s => (s.below? k place).bind (along? rest)

/-- The reference of the schema at the end of a path. -/
def refAt? (path : Path) (s : Schema) : Option String := (along? path s).bind (·.text? .ref)

/-- Whether the walk goes along a path: through definitions first, and then below walked keys only. -/
def isVisited (path : Path) : Bool :=
  ((path.map (·.1)).dropWhile (· = .definitions)).all Key.isWalked

section

variable {f : String → String} {outer : Bool}

/-- What the walk makes of what a key says. -/
lemma part?_mapRefs (s : Schema) (k : Key) :
    (mapRefs f outer s).part? k = (s.part? k).map (redirected f outer k) := by
  obtain ⟨parts, extra⟩ := s
  rw [mapRefs_mk, part?, part?, Schema.parts, Schema.parts, List.find?_map, Option.map_map,
    Option.map_map]
  change (parts.find? (·.1 = k)).map _ = (parts.find? (·.1 = k)).map _
  cases hfind : parts.find? (·.1 = k) with
  | none => rfl
  | some e =>
    obtain rfl : e.1 = k := by simpa using List.find?_some hfind
    rfl

/-- What stands under a name among replaced entries. -/
lemma lookup?_map_snd {α β : Type} (φ : α → β) (entries : List (String × α)) (name : String) :
    Json.lookup? (entries.map fun e => (e.1, φ e.2)) name = (Json.lookup? entries name).map φ := by
  induction entries with
  | nil => rfl
  | cons e rest ih =>
    obtain ⟨k, v⟩ := e
    rw [List.map_cons, Json.lookup?_cons, Json.lookup?_cons, ih]
    split <;> rfl

/-- What stands at a place of a part whose schemas are replaced.

**Proof sketch.** By the kind of part and of place. -/
lemma sub?_map (φ : Schema → Schema) (p : Part) (place : Place) :
    (p.map φ).sub? place = (p.sub? place).map (Sub.map φ) := by
  cases p with
  | data => rfl
  | one => cases place <;> rfl
  | list subs =>
    cases place with
    | item i => exact List.getElem?_map
    | single | entry => rfl
  | named entries =>
    cases place with
    | entry name => exact lookup?_map_snd (Sub.map φ) entries name
    | single | item => rfl

/-- The schema at a place below a key of a schema whose parts are changed by replacing schemas.

**Proof sketch.** A place of the part leads to the replaced schema, by `sub?_map`. -/
lemma below?_eq_map {s t : Schema} {k : Key} {φ : Schema → Schema}
    (h : t.part? k = (s.part? k).map (Part.map φ)) (place : Place) :
    t.below? k place = (s.below? k place).map φ := by
  rw [below?, below?, h]
  cases s.part? k with
  | none => rfl
  | some p =>
    simp only [Option.map_some, Option.bind_some, sub?_map]
    cases p.sub? place with
    | none => rfl
    | some sub => cases sub <;> rfl

/-- Below a walked key the walk goes on, there as inside. -/
lemma below?_mapRefs_of_isWalked {k : Key} (hk : k.isWalked = true) (s : Schema) (place : Place) :
    (mapRefs f outer s).below? k place = (s.below? k place).map (mapRefs f false) := by
  refine below?_eq_map ?_ place
  have href : k ≠ .ref := by
    rintro rfl
    cases hk
  rw [part?_mapRefs]
  congr 1
  funext p
  rw [redirected, if_neg href, if_pos hk]

/-- Into definitions the walk goes at the outer level. -/
lemma below?_mapRefs_definitions (s : Schema) (place : Place) :
    (mapRefs f true s).below? .definitions place =
      (s.below? .definitions place).map (mapRefs f true) := by
  refine below?_eq_map ?_ place
  rw [part?_mapRefs]
  rfl

/-- Below other keys nothing changes.

**Proof sketch.** A part under such a key is the reference itself, which holds no schema, or it
stays as it is. -/
lemma below?_mapRefs_of_not_isWalked {k : Key} (hk : k.isWalked = false)
    (hdefinitions : (outer && k = .definitions) = false) (s : Schema) (place : Place) :
    (mapRefs f outer s).below? k place = s.below? k place := by
  rw [below?, below?, part?_mapRefs]
  by_cases href : k = .ref
  · subst href
    cases hpart : s.part? .ref with
    | none => rfl
    | some p => cases p <;> cases place <;> rfl
  · have hsame : redirected f outer k = id := by
      funext p
      rw [redirected, if_neg href, hk, hdefinitions]
      rfl
    rw [hsame, Option.map_id]
    rfl

/-- The reference of a schema itself. -/
lemma text?_ref_mapRefs (s : Schema) :
    (mapRefs f outer s).text? .ref = (s.text? .ref).map f := by
  rw [text?, text?, part?_mapRefs]
  cases s.part? .ref with
  | none => rfl
  | some p =>
    match p with
    | .data (.str r) => rfl
    | .data .null | .data (.bool _) | .data (.num _) | .data (.arr _) | .data (.obj _) => rfl
    | .one _ | .list _ | .named _ => rfl

/-- A path that starts with a step. -/
lemma refAt?_cons (k : Key) (place : Place) (rest : Path) (s : Schema) :
    refAt? ((k, place) :: rest) s = (s.below? k place).bind (refAt? rest) :=
  Option.bind_assoc ..

/-- Inside definitions and below walked keys, the walk goes along paths of walked keys only.

**Proof sketch.** Induction on the path. The first key decides whether the walk goes on, and from
there it is the assumption. -/
lemma refAt?_mapRefs_false (path : Path) (s : Schema) :
    refAt? path (mapRefs f false s) =
      if (path.map (·.1)).all Key.isWalked then (refAt? path s).map f else refAt? path s := by
  induction path generalizing s with
  | nil => exact text?_ref_mapRefs s
  | cons step rest ih =>
    obtain ⟨k, place⟩ := step
    rw [refAt?_cons, refAt?_cons, List.map_cons, List.all_cons]
    cases hk : k.isWalked with
    | false =>
      rw [below?_mapRefs_of_not_isWalked hk rfl]
      rfl
    | true =>
      rw [below?_mapRefs_of_isWalked hk, Bool.true_and]
      cases s.below? k place with
      | none => simp
      | some t => simpa using ih t

/-- The walk goes along a path that starts with a definition if it goes along the rest; any other step
has to be below a walked key, and so have all steps behind it. -/
lemma isVisited_cons (k : Key) (place : Place) (rest : Path) :
    isVisited ((k, place) :: rest) =
      if k = .definitions then isVisited rest
      else k.isWalked && (rest.map (·.1)).all Key.isWalked := by
  by_cases h : k = .definitions <;> simp [isVisited, h]

/-- **Which references change**: those at the end of paths that the walk goes along.

**Proof sketch.** Induction on the path. Below definitions the walk is still at the outer level, and
below another walked key it goes on as in `refAt?_mapRefs_false`. -/
theorem refAt?_mapRefs (path : Path) (s : Schema) :
    refAt? path (mapRefs f true s) =
      if isVisited path then (refAt? path s).map f else refAt? path s := by
  induction path generalizing s with
  | nil => exact text?_ref_mapRefs s
  | cons step rest ih =>
    obtain ⟨k, place⟩ := step
    rw [refAt?_cons, refAt?_cons, isVisited_cons]
    by_cases hdefinitions : k = .definitions
    · -- the walk is still at the outer level
      subst hdefinitions
      rw [below?_mapRefs_definitions, if_pos rfl]
      cases s.below? .definitions place with
      | none => simp
      | some t => simpa using ih t
    · rw [if_neg hdefinitions]
      cases hk : k.isWalked with
      | false =>
        rw [below?_mapRefs_of_not_isWalked hk (by simpa using hdefinitions)]
        rfl
      | true =>
        rw [below?_mapRefs_of_isWalked hk, Bool.true_and]
        cases s.below? k place with
        | none => simp
        | some t => simpa using refAt?_mapRefs_false rest t

end

/-! ## References into components -/

/-- A text that was put behind a start. -/
lemma stripStart_append (start n : String) : stripStart start (start ++ n) = n := by
  rw [stripStart, String.toList_append, Text.afterStart?_append]
  exact String.ofList_toList

/-- A text that does not begin with a start. -/
lemma stripStart_of_not_isPrefix {start n : String} (h : ¬start.toList <+: n.toList) :
    stripStart start n = n := by
  rw [stripStart]
  cases hafter : Text.afterStart? start.toList n.toList with
  | none => rfl
  | some rest => exact absurd ⟨rest, (Text.afterStart?_eq_some_iff.1 hafter).symm⟩ h

/-- A reference to a definition becomes one to the component of the same name. -/
lemma componentRef_definitions {n : String} (h : ¬componentsPath.toList <+: n.toList) :
    componentRef (definitionsPath ++ n) = componentsPath ++ n := by
  rw [componentRef, stripStart_append, stripStart_of_not_isPrefix h]

/-- A reference to a component stays as it is.

**Proof sketch.** The two paths start differently, so the path of definitions is not found in front
of the reference. -/
lemma componentRef_components (n : String) :
    componentRef (componentsPath ++ n) = componentsPath ++ n := by
  have hnot : Text.afterStart? definitionsPath.toList (componentsPath ++ n).toList = none := by
    rw [String.toList_append]
    rfl
  have hprefix : ¬definitionsPath.toList <+: (componentsPath ++ n).toList := by
    rintro ⟨rest, hrest⟩
    rw [← hrest, Text.afterStart?_append] at hnot
    cases hnot
  rw [componentRef, stripStart_of_not_isPrefix hprefix, stripStart_append]

/-- A redirected reference leads into the components. -/
lemma isPrefix_componentRef (r : String) : componentsPath.toList <+: (componentRef r).toList := by
  rw [componentRef, String.toList_append]
  exact List.prefix_append _ _

/-- A reference that is redirected already stays as it is. -/
lemma componentRef_comp_componentRef : componentRef ∘ componentRef = componentRef := by
  funext r
  exact componentRef_components _

/-- **What becomes of a schema whose references are redirected.** But for its references it is what it
was. Along a path that the walk goes, a reference to a definition, or to a component, becomes one to
the component of the same name (a name that itself begins like a reference to a component is not told
apart from one), and every reference there leads into the components; beside the way of the walk,
references stay as they are. A second walk changes nothing.

**Proof sketch.** What the walk does along a path is decided step by step: at definitions as long as
there are only definitions, below walked keys from then on. All else is by induction on what a schema
holds, since the walk replaces the schemas of a part or leaves them alone. -/
theorem localized_redirects (s : Schema) :
    s.localized.blanked = s.blanked ∧
      (∀ path n, isVisited path = true → ¬componentsPath.toList <+: n.toList →
        refAt? path s = some (definitionsPath ++ n) →
          refAt? path s.localized = some (componentsPath ++ n)) ∧
      (∀ path n, isVisited path = true → refAt? path s = some (componentsPath ++ n) →
        refAt? path s.localized = some (componentsPath ++ n)) ∧
      (∀ path r, isVisited path = true → refAt? path s.localized = some r →
        componentsPath.toList <+: r.toList) ∧
      (∀ path, isVisited path = false → refAt? path s.localized = refAt? path s) ∧
      s.localized.localized = s.localized := by
  have hvisited (path : Path) (h : isVisited path = true) :
      refAt? path s.localized = (refAt? path s).map componentRef := by
    rw [localized, refAt?_mapRefs, if_pos h]
  refine ⟨blanked_mapRefs _ s true, fun path n h hn href => ?_, fun path n h href => ?_,
    fun path r h href => ?_, fun path h => ?_, ?_⟩
  · rw [hvisited path h, href, Option.map_some, componentRef_definitions hn]
  · rw [hvisited path h, href, Option.map_some, componentRef_components]
  · rw [hvisited path h] at href
    obtain ⟨ref, -, rfl⟩ := Option.map_eq_some_iff.1 href
    exact isPrefix_componentRef ref
  · rw [localized, refAt?_mapRefs, h]
    rfl
  · rw [localized, localized, mapRefs_mapRefs, componentRef_comp_componentRef]

/-- A schema with the given reference and nothing else. -/
def linkTo (ref : String) : Sub := .schema (.mk [(.ref, .data (.str ref))] [])

/-- A schema with references in a property, in the items of a definition, and below a key that is not
walked. -/
def person : Schema :=
  .mk [(.definitions, .named [("Ages",
        .schema (.mk [(.items, .one (linkTo "#/components/schemas/Age"))] []))]),
      (.properties, .named [("ages", linkTo "#/definitions/Ages")]),
      (.propertyNames, .one (linkTo "#/definitions/Name"))] []

/-- The path to the property of the schema. -/
def toAges : Path := [(.properties, .entry "ages")]

/-- The path to the items of the definition. -/
def toAge : Path := [(.definitions, .entry "Ages"), (.items, .single)]

/-- The path that is not walked. -/
def toName : Path := [(.propertyNames, .single)]

/-- The references of the schema before and after the walk.

**Proof sketch.** The references of the schema are found by evaluation, and each is a case of
`localized_redirects`. -/
theorem localized_redirects_person :
    (isVisited toAges = true ∧ ¬componentsPath.toList <+: "Ages".toList ∧
        refAt? toAges person = some (definitionsPath ++ "Ages") ∧
        refAt? toAges person.localized = some (componentsPath ++ "Ages")) ∧
      (isVisited toAge = true ∧ refAt? toAge person = some (componentsPath ++ "Age") ∧
        refAt? toAge person.localized = some (componentsPath ++ "Age")) ∧
      (isVisited toName = false ∧ refAt? toName person = some (definitionsPath ++ "Name") ∧
        refAt? toName person.localized = some (definitionsPath ++ "Name")) := by
  obtain ⟨-, hdefinitions, hcomponents, -, hbeside, -⟩ := localized_redirects person
  have hages : refAt? toAges person = some (definitionsPath ++ "Ages") := by rfl
  have hage : refAt? toAge person = some (componentsPath ++ "Age") := by rfl
  have hname : refAt? toName person = some (definitionsPath ++ "Name") := by rfl
  have hplain : ¬componentsPath.toList <+: "Ages".toList := by decide
  exact ⟨⟨rfl, hplain, hages, hdefinitions _ _ rfl hplain hages⟩,
    ⟨rfl, hage, hcomponents _ _ rfl hage⟩, rfl, hname, (hbeside _ rfl).trans hname⟩

end SchemaKit.Schema
