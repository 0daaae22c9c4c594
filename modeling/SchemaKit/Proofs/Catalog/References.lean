import SchemaKit.Proofs.Catalog.Log
import SchemaKit.Proofs.Json.RoundTrip

/-!
# References in registered schemas

When an entity is registered, its definitions become entries of their own, and the references to
them are redirected into the components of a document. The walk that redirects them does not go
everywhere. So a reference into the definitions of a schema is left in what is stored exactly if it
stood at a place that the walk does not reach.

## Main definitions

* `SchemaKit.Schema.refs` — all references of a schema, at any depth.
* `SchemaKit.Schema.strays` — those that the walk does not reach.
* `SchemaKit.Schema.hasLocalRef`, `SchemaKit.Schema.hasLocalStray` — whether one of them leads into
  the definitions of a schema.
* `SchemaKit.Schema.family` — a schema with the definitions inside it, and inside them.

## Main results

* `SchemaKit.Schema.hasLocalRef_localized` — the references that are left are those that the walk
  does not reach.
* `SchemaKit.Catalog.added_sublist_family` — what is added is part of the family of a schema.
* `SchemaKit.Catalog.hasLocalRef_registered_iff` — when references are left in what is stored.
* `SchemaKit.Catalog.patterned_keeps_local_ref` — an entity with such a reference.
-/

namespace SchemaKit

namespace Schema

/-! ## References -/

/-- The text of a reference. -/
def refText : Part → List String
  | .data (.str r) => [r]
  | _ => []

mutual

/-- All references of a schema, at any depth and below any key. -/
def refs : Schema → List String
  | .mk parts _ => refsOfParts parts

/-- Part by part. -/
def refsOfParts : List (Key × Part) → List String
  | [] => []
  | (k, p) :: rest => (if k = .ref then refText p else refsOfPart p) ++ refsOfParts rest

/-- The references in the schemas of a part. -/
def refsOfPart : Part → List String
  | .data _ => []
  | .one s => refsOfSub s
  | .list ss => refsOfSubs ss
  | .named es => refsOfNamed es

/-- The references in the schema at a place. -/
def refsOfSub : Sub → List String
  | .schema s => refs s
  | _ => []

/-- Place by place. -/
def refsOfSubs : List Sub → List String
  | [] => []
  | s :: rest => refsOfSub s ++ refsOfSubs rest

/-- Place by place. -/
def refsOfNamed : List (String × Sub) → List String
  | [] => []
  | (_, s) :: rest => refsOfSub s ++ refsOfNamed rest

end

mutual

/-- The references that the walk through a schema does not reach. It goes below some of the keys
only, and into definitions at the `outer` level only. -/
def strays (outer : Bool) : Schema → List String
  | .mk parts _ => straysOfParts outer parts

/-- Part by part. -/
def straysOfParts (outer : Bool) : List (Key × Part) → List String
  | [] => []
  | (k, p) :: rest =>
    (if k = .ref then []
      else if k.isWalked then straysOfPart false p
      else if outer && k = .definitions then straysOfPart true p
      else refsOfPart p) ++ straysOfParts outer rest

/-- Among the schemas of a part. -/
def straysOfPart (outer : Bool) : Part → List String
  | .data _ => []
  | .one s => straysOfSub outer s
  | .list ss => straysOfSubs outer ss
  | .named es => straysOfNamed outer es

/-- In the schema at a place. -/
def straysOfSub (outer : Bool) : Sub → List String
  | .schema s => strays outer s
  | _ => []

/-- Place by place. -/
def straysOfSubs (outer : Bool) : List Sub → List String
  | [] => []
  | s :: rest => straysOfSub outer s ++ straysOfSubs outer rest

/-- Place by place. -/
def straysOfNamed (outer : Bool) : List (String × Sub) → List String
  | [] => []
  | (_, s) :: rest => straysOfSub outer s ++ straysOfNamed outer rest

end

/-! ## What the walk leaves -/

section

variable {f : String → String} {q : String → Bool}

/-- A redirected reference does not have the property. -/
lemma any_refText_mapData (hq : ∀ r, q (f r) = false) (p : Part) :
    (refText (mapData f p)).any q = false := by
  match p with
  | .data (.str r) => simp [mapData, mapRef, refText, hq]
  | .data .null | .data (.bool _) | .data (.num _) | .data (.arr _) | .data (.obj _) => rfl
  | .one _ | .list _ | .named _ => rfl

mutual

/-- **A property that no redirected reference has** is found behind the walk exactly where the walk
did not go.

**Proof sketch.** By the structure of the schema, with one companion statement for each place where
schemas stand. A part is a reference, or is walked, or is left as it is; in the last case both sides
look at the same references. -/
theorem any_refs_mapRefs (hq : ∀ r, q (f r) = false) (outer : Bool) (s : Schema) :
    (refs (mapRefs f outer s)).any q = (strays outer s).any q := by
  match s with
  | .mk parts _ => exact any_refsOfParts_mapParts hq outer parts

/-- Part by part: what is not walked is left as it is.

**Proof sketch.** By recursion on the parts. The reference of a part is redirected and does not
count; a walked part and the definitions of the outer schema are treated in turn, and any other part
is left as it is, so that its references are stray. -/
theorem any_refsOfParts_mapParts (hq : ∀ r, q (f r) = false) (outer : Bool)
    (parts : List (Key × Part)) :
    (refsOfParts (mapParts f outer parts)).any q = (straysOfParts outer parts).any q := by
  match parts with
  | [] => rfl
  | (k, p) :: rest =>
    have hrest := any_refsOfParts_mapParts hq outer rest
    simp only [mapParts, refsOfParts, straysOfParts, List.any_append, hrest]
    congr 1
    by_cases href : k = .ref
    · simp [href, any_refText_mapData hq]
    · simp only [href, if_false]
      by_cases hwalked : k.isWalked = true
      · simp [hwalked, any_refsOfPart_mapPart hq false p]
      · simp only [hwalked]
        by_cases hdefinitions : (outer && decide (k = .definitions)) = true
        · simp [hdefinitions, any_refsOfPart_mapPart hq true p]
        · simp [hdefinitions]

/-- The schemas of a part. -/
theorem any_refsOfPart_mapPart (hq : ∀ r, q (f r) = false) (outer : Bool) (p : Part) :
    (refsOfPart (mapPart f outer p)).any q = (straysOfPart outer p).any q := by
  match p with
  | .data _ => rfl
  | .one s => exact any_refsOfSub_mapSub hq outer s
  | .list ss => exact any_refsOfSubs_mapSubs hq outer ss
  | .named es => exact any_refsOfNamed_mapNamed hq outer es

/-- The schema at a place. -/
theorem any_refsOfSub_mapSub (hq : ∀ r, q (f r) = false) (outer : Bool) (s : Sub) :
    (refsOfSub (mapSub f outer s)).any q = (straysOfSub outer s).any q := by
  match s with
  | .schema s => exact any_refs_mapRefs hq outer s
  | .truth _ | .nothing | .names _ => rfl

/-- Place by place. -/
theorem any_refsOfSubs_mapSubs (hq : ∀ r, q (f r) = false) (outer : Bool) (ss : List Sub) :
    (refsOfSubs (mapSubs f outer ss)).any q = (straysOfSubs outer ss).any q := by
  match ss with
  | [] => rfl
  | s :: rest =>
    rw [mapSubs, refsOfSubs, straysOfSubs, List.any_append, List.any_append,
      any_refsOfSub_mapSub hq outer s, any_refsOfSubs_mapSubs hq outer rest]

/-- Place by place. -/
theorem any_refsOfNamed_mapNamed (hq : ∀ r, q (f r) = false) (outer : Bool)
    (es : List (String × Sub)) :
    (refsOfNamed (mapNamed f outer es)).any q = (straysOfNamed outer es).any q := by
  match es with
  | [] => rfl
  | (name, s) :: rest =>
    rw [mapNamed, refsOfNamed, straysOfNamed, List.any_append, List.any_append,
      any_refsOfSub_mapSub hq outer s, any_refsOfNamed_mapNamed hq outer rest]

end

end

/-! ## References into definitions -/

/-- Whether a reference leads into the definitions of a schema. -/
def isLocal (r : String) : Bool := Text.startsWith definitionsPath.toList r.toList

/-- A redirected reference leads into the components of a document. -/
lemma isLocal_componentRef (r : String) : isLocal (componentRef r) = false := by
  rw [isLocal, componentRef, String.toList_append]
  rfl

/-- Whether some reference leads into the definitions of a schema. -/
def hasLocalRef (s : Schema) : Bool := s.refs.any isLocal

/-- Whether some reference that the walk does not reach leads into the definitions of a schema. -/
def hasLocalStray (s : Schema) : Bool := (s.strays true).any isLocal

/-- **The references that are left** are those that the walk does not reach. -/
lemma hasLocalRef_localized (s : Schema) : s.localized.hasLocalRef = s.hasLocalStray :=
  any_refs_mapRefs isLocal_componentRef true s

/-- Parts can be dropped before or after the walk.

**Proof sketch.** By induction on the parts, because the walk handles each part by itself and keeps
its key. -/
lemma localized_drop (s : Schema) (k : Key) : s.localized.drop k = (s.drop k).localized := by
  obtain ⟨parts, extra⟩ := s
  have hparts : ∀ ps : List (Key × Part), (mapParts componentRef true ps).filter (·.1 ≠ k) =
      mapParts componentRef true (ps.filter (·.1 ≠ k)) := by
    intro ps
    induction ps with
    | nil => rfl
    | cons e rest ih =>
      obtain ⟨j, p⟩ := e
      by_cases hj : j = k
      · simpa [mapParts, hj] using ih
      · simpa [mapParts, hj] using ih
  simp only [localized, mapRefs, drop, Schema.parts, Schema.extra, hparts]

/-! ## Families of definitions -/

mutual

/-- A schema under a name, followed by the definitions inside it, each with its own. -/
def family : Schema → (name : String) → List (String × Schema)
  | .mk parts extra, name => (name, .mk parts extra) :: familyOfParts parts

/-- The definitions among the parts of a schema. -/
def familyOfParts : List (Key × Part) → List (String × Schema)
  | [] => []
  | (k, p) :: rest => if k = .definitions then familyOfPart p else familyOfParts rest

/-- The definitions of a part. -/
def familyOfPart : Part → List (String × Schema)
  | .named entries => familyOfEntries entries
  | _ => []

/-- Definition by definition. -/
def familyOfEntries : List (String × Sub) → List (String × Schema)
  | [] => []
  | (name, sub) :: rest => familyOfSub sub name ++ familyOfEntries rest

/-- The family of a definition. -/
def familyOfSub : Sub → (name : String) → List (String × Schema)
  | .schema s, name => family s name
  | _, _ => []

end

/-- An entry with its references redirected. -/
def localizeEntry (e : String × Schema) : String × Schema := (e.1, e.2.localized)

mutual

/-- **The walk reaches all of a family**: every definition is walked like the schema itself. -/
theorem family_localized (s : Schema) (name : String) :
    family s.localized name = (family s name).map localizeEntry := by
  match s with
  | .mk parts extra =>
    rw [localized, mapRefs, family, family, List.map_cons, familyOfParts_mapParts parts]
    rfl

/-- The definitions among the parts of a schema.

**Proof sketch.** By recursion on the parts. The first part under the key of definitions is found
before and after the walk. -/
theorem familyOfParts_mapParts (parts : List (Key × Part)) :
    familyOfParts (mapParts componentRef true parts) =
      (familyOfParts parts).map localizeEntry := by
  match parts with
  | [] => rfl
  | (k, p) :: rest =>
    rw [mapParts, familyOfParts, familyOfParts]
    by_cases hk : k = .definitions
    · subst hk
      exact familyOfPart_mapPart p
    · rw [if_neg hk, if_neg hk]
      exact familyOfParts_mapParts rest

/-- The definitions of a part. -/
theorem familyOfPart_mapPart (p : Part) :
    familyOfPart (mapPart componentRef true p) = (familyOfPart p).map localizeEntry := by
  match p with
  | .named entries => exact familyOfEntries_mapNamed entries
  | .data _ | .one _ | .list _ => rfl

/-- Definition by definition. -/
theorem familyOfEntries_mapNamed (entries : List (String × Sub)) :
    familyOfEntries (mapNamed componentRef true entries) =
      (familyOfEntries entries).map localizeEntry := by
  match entries with
  | [] => rfl
  | (name, sub) :: rest =>
    rw [mapNamed, familyOfEntries, familyOfEntries, List.map_append, familyOfSub_mapSub sub name,
      familyOfEntries_mapNamed rest]

/-- The family of a definition. -/
theorem familyOfSub_mapSub (sub : Sub) (name : String) :
    familyOfSub (mapSub componentRef true sub) name =
      (familyOfSub sub name).map localizeEntry := by
  match sub with
  | .schema s => exact family_localized s name
  | .truth _ | .nothing | .names _ => rfl

end

end Schema

namespace Catalog

open Schema (Key Part Sub family familyOfParts familyOfPart familyOfEntries familyOfSub
  localizeEntry)

mutual

/-- **What is added is part of the family of a schema**, in the same order. A definition that is
passed over or refused leaves a gap. -/
theorem added_sublist_family (s : Schema) (name : String) (c : Catalog) :
    (added s name c).Sublist (family s name) := by
  match s with
  | .mk parts extra =>
    rw [added, family]
    split
    · exact (addedParts_sublist_family parts _).cons_cons _
    · exact List.nil_sublist _

/-- The definitions among the parts of a schema.

**Proof sketch.** By recursion over the parts: only those under the key of definitions are looked
at, on both sides. -/
theorem addedParts_sublist_family (parts : List (Key × Part)) (c : Catalog) :
    (addedParts parts c).Sublist (familyOfParts parts) := by
  match parts with
  | [] => exact List.nil_sublist _
  | (k, p) :: rest =>
    rw [addedParts, familyOfParts]
    by_cases hk : k = .definitions
    · rw [if_pos hk, if_pos hk]
      exact addedPart_sublist_family p c
    · rw [if_neg hk, if_neg hk]
      exact addedParts_sublist_family rest c

/-- The definitions of a part. -/
theorem addedPart_sublist_family (p : Part) (c : Catalog) :
    (addedPart p c).Sublist (familyOfPart p) := by
  match p with
  | .named entries => exact addedEntries_sublist_family entries c
  | .data _ | .one _ | .list _ => exact List.nil_sublist _

/-- Definition by definition, up to the first that is refused.

**Proof sketch.** By recursion over the entries. The log ends with the first one that is refused,
and the family goes on. -/
theorem addedEntries_sublist_family (entries : List (String × Sub)) (c : Catalog) :
    (addedEntries entries c).Sublist (familyOfEntries entries) := by
  match entries with
  | [] => exact List.nil_sublist _
  | (name, sub) :: rest =>
    rw [addedEntries, familyOfEntries]
    refine (addedSub_sublist_family sub name c).append ?_
    split
    · exact addedEntries_sublist_family rest _
    · exact List.nil_sublist _

/-- A definition. -/
theorem addedSub_sublist_family (sub : Sub) (name : String) (c : Catalog) :
    (addedSub sub name c).Sublist (familyOfSub sub name) := by
  match sub with
  | .schema s => exact added_sublist_family s name c
  | .truth _ | .nothing | .names _ => exact List.nil_sublist _

end

/-! ## Registered entities -/

/-- The schema of an entity before its references are redirected. -/
def document? (e : Entity) : Option Schema :=
  (Schema.readText? e.schema.toList).bind fun s =>
    if e.example_ = "" then some s
    else
      ((Json.readWhole e.example_.toList).bind Json.canonical?).map fun v =>
        s.put .examples (.data (.arr [v]))

/-- The schema of an entity is its document with redirected references.

**Proof sketch.** By the order in which an entity is read: its schema, and then its example if there
is one. Each failure on the way contradicts the success. -/
lemma schemaOf_eq_ok {e : Entity} {s : Schema} (h : schemaOf e = .ok s) :
    ∃ d, document? e = some d ∧ s = d.localized := by
  rw [schemaOf] at h
  rw [document?]
  split at h
  · cases h
  · rename_i d hread
    rw [hread, Option.bind_some]
    by_cases hexample : e.example_ = ""
    · rw [if_pos hexample] at h ⊢
      exact ⟨d, rfl, (Except.ok.inj h).symm⟩
    · rw [if_neg hexample] at h ⊢
      split at h
      · cases h
      · rename_i v hvalue
        rw [hvalue]
        exact ⟨_, rfl, (Except.ok.inj h).symm⟩

/-- The document of an entity with the definitions inside it. -/
def familyOf (e : Entity) : List (String × Schema) :=
  match document? e with
  | none => []
  | some d => family d e.name

/-- What is stored for an entity comes from its document.

**Proof sketch.** What is stored belongs to the family of the redirected schema, and this is the
family of the document, redirected. A part of it is a part of the family before. -/
lemma exists_sources_registeredOne (c : Catalog) (e : Entity) :
    ∃ sources : List (String × Schema), sources.Sublist (familyOf e) ∧
      c.registeredOne e = sources.map localizeEntry := by
  rw [registeredOne]
  split
  · exact ⟨[], List.nil_sublist _, rfl⟩
  · rename_i s hs
    obtain ⟨d, hd, rfl⟩ := schemaOf_eq_ok hs
    have hsub := added_sublist_family d.localized e.name c
    rw [Schema.family_localized, List.sublist_map_iff] at hsub
    rw [familyOf, hd]
    exact hsub

/-- What is stored for entities comes from their documents.

**Proof sketch.** By induction on the entities; the parts of their families are put one behind the
other, up to the first entity that is refused. -/
lemma exists_sources_registered (c : Catalog) (es : List Entity) :
    ∃ sources : List (String × Schema), sources.Sublist (es.flatMap familyOf) ∧
      c.registered es = sources.map localizeEntry := by
  induction es generalizing c with
  | nil => exact ⟨[], List.nil_sublist _, rfl⟩
  | cons e rest ih =>
    obtain ⟨first, hfirst, heq⟩ := exists_sources_registeredOne c e
    rw [registered, heq, List.flatMap_cons]
    split
    · rename_i c' _
      obtain ⟨others, hothers, heq'⟩ := ih c'
      exact ⟨first ++ others, hfirst.append hothers, by rw [heq', List.map_append]⟩
    · exact ⟨first, hfirst.trans (List.sublist_append_left _ _), List.append_nil _⟩

/-- **When references into definitions are left in what is stored.** Registering entities, whether
it succeeds or not, is a run along its log. The schemas of the log come from the documents of the
entities, by redirecting references. Stored without their own definitions, they are free of
references into definitions iff in none of the sources such a reference stands where the walk does
not go.

**Proof sketch.** By `exists_sources_registered` the log is a list of redirected sources. Redirected
without its definitions, a source has a reference into definitions iff one stands where the walk
does not go. -/
theorem hasLocalRef_registered_iff (c : Catalog) (es : List Entity) :
    Run c (c.registered es) (c.register es).1 ∧
      ∃ sources : List (String × Schema), sources.Sublist (es.flatMap familyOf) ∧
        c.registered es = sources.map localizeEntry ∧
        ((∀ e ∈ c.registered es, (e.2.drop .definitions).hasLocalRef = false) ↔
          ∀ e ∈ sources, (e.2.drop .definitions).hasLocalStray = false) := by
  obtain ⟨sources, hsub, heq⟩ := exists_sources_registered c es
  refine ⟨run_register c es, sources, hsub, heq, ?_⟩
  rw [heq, List.forall_mem_map]
  simp only [localizeEntry, Schema.localized_drop, Schema.hasLocalRef_localized]

/-- A schema that refers to its definition from below a pattern for names. -/
def patternedDocument : Json :=
  .obj [("patternProperties", .obj [("^x", .obj [("$ref", .str "#/definitions/B")])]),
    ("definitions", .obj [("B", .obj [("type", .str "string")])])]

/-- An entity with this schema. -/
def patterned : Entity := ⟨"A", patternedDocument.compact, ""⟩

/-- The schema of the entity. Its reference is not redirected.

**Proof sketch.** The document is read back from its text, and the rest is evaluated. -/
lemma schemaOf_patterned :
    schemaOf patterned =
      .ok (.mk [(.definitions, .named [("B", .schema (.mk [(.type, .data (.str "string"))] []))]),
        (.patternProperties, .named [("^x",
          .schema (.mk [(.ref, .data (.str "#/definitions/B"))] []))])] []) := by
  have hread : Json.readWhole patterned.schema.toList = some patternedDocument :=
    Json.readWhole_compact (by simp [patternedDocument, Json.WellFormed,
      Json.WellFormed.wellFormedMembers]) (by decide)
  rw [schemaOf, Schema.readText?, hread]
  rfl

/-- **A reference into definitions can be left**: below a pattern for names it is not redirected. -/
theorem patterned_keeps_local_ref :
    (empty.register [patterned]).2 = .ok () ∧
      ∃ s, (empty.register [patterned]).1.get? "A" = some s ∧ s.hasLocalRef = true := by
  rw [register, registerOne, schemaOf_patterned]
  exact ⟨rfl, _, rfl, rfl⟩

end Catalog

end SchemaKit
