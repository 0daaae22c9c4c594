import SchemaKit.Proofs.Schema.Encoding
import SchemaKit.Proofs.Schema.Placing
import SchemaKit.Shape.Derive

/-!
# Schemas of shapes stand alone

What is derived from a shape consists of kinds, of data from tags, and of properties that are derived in
the same way. None of these steps brings in definitions or members that are no keys. So the schema of a
shape is registered by itself, and whether it can be compared depends only on the numbers in its tags:
the infinities have names there, but cannot be written.

## Main definitions

* `SchemaKit.Schema.StandsAlone` — a schema without definitions and without further members.

## Main results

* `SchemaKit.Schema.StandsAlone.describe?` — what a tag says brings in neither of them.
* `SchemaKit.Shape.standsAlone_of_schema?` — schemas of shapes have neither of them.
-/

namespace SchemaKit

namespace Schema

/-! ## Kinds and tags -/

/-- A schema that has no definitions and no members whose names are no keys. -/
structure StandsAlone (s : Schema) : Prop where
  /-- There are no definitions. -/
  definitions : s.part? .definitions = none
  /-- There are no further members. -/
  extra : s.extra = []

/-- The document without any keys stands alone. -/
lemma standsAlone_blank : blank.StandsAlone := ⟨rfl, rfl⟩

section

variable {s t : Schema} {k : Key}

/-- A part may be put in, unless it is that of definitions. -/
lemma StandsAlone.put (h : s.StandsAlone) (hk : k ≠ .definitions) (p : Part) :
    (s.put k p).StandsAlone :=
  ⟨by rw [part?_put_of_ne s p hk.symm, h.definitions], h.extra⟩

/-- A part may be left out, unless it is that of definitions. -/
lemma StandsAlone.drop (h : s.StandsAlone) (hk : k ≠ .definitions) : (s.drop k).StandsAlone :=
  ⟨by rw [part?_drop_of_ne hk, h.definitions], h.extra⟩

/-- Kinds may be named. -/
lemma StandsAlone.withKinds (h : s.StandsAlone) (ks : List Validation.Kind) :
    (s.withKinds ks).StandsAlone := by
  unfold Schema.withKinds
  split
  · exact h.drop (by decide)
  · exact h.put (by decide) _
  · exact h.put (by decide) _

/-- One more kind may be named. -/
lemma StandsAlone.addKind (h : s.StandsAlone) (kind : Validation.Kind) :
    (s.addKind kind).StandsAlone := by
  unfold Schema.addKind
  split
  · exact h
  · exact h.withKinds _

/-- A kind may be left out. -/
lemma StandsAlone.removeKind (h : s.StandsAlone) (kind : Validation.Kind) :
    (s.removeKind kind).StandsAlone := by
  unfold Schema.removeKind
  split
  · exact h.withKinds _
  · exact h

/-- A tag gives no data to definitions. -/
lemma ne_definitions_of_tagData? {tag : String} {v : Json}
    (h : s.tagData? k tag = some (some v)) : k ≠ .definitions := by
  rintro rfl
  rw [tagData?, if_neg (by decide)] at h
  split at h
  · cases h
  · cases h

/-- **What a tag says brings in no definitions and no further members.**

**Proof sketch.** By induction on the keys that the tag is asked for: each puts data in its place or
changes nothing, and definitions are given no data. -/
lemma StandsAlone.describe? (h : s.StandsAlone) {tag : String} (hdescribe : s.describe? tag = some t) :
    t.StandsAlone := by
  unfold Schema.describe? at hdescribe
  generalize Key.table.map (·.1) = ks at hdescribe
  induction ks generalizing s with
  | nil =>
    cases hdescribe
    exact h
  | cons k ks ih =>
    rw [List.foldlM_cons] at hdescribe
    obtain ⟨next, hnext, hrest⟩ := Option.bind_eq_some_iff.1 hdescribe
    obtain ⟨data, hdata, rfl⟩ := Option.map_eq_some_iff.1 hnext
    refine ih ?_ hrest
    cases data with
    | none => exact h
    | some v => exact h.put (ne_definitions_of_tagData? hdata) _

end

end Schema

namespace Shape

/-! ## Shapes -/

open Schema (StandsAlone standsAlone_blank)

/-- What a schema starts with stands alone. -/
lemma standsAlone_start (n : Nullity) : n.start.StandsAlone := by
  unfold Nullity.start
  split
  · exact standsAlone_blank.addKind _
  · exact standsAlone_blank

/-- The schema of a list stands alone. -/
lemma standsAlone_listOf (n : Nullity) (items : Schema) : (n.listOf items).StandsAlone :=
  ((standsAlone_start n).addKind _).put (by decide) _

/-- The schema of a map stands alone. -/
lemma standsAlone_mapOf (n : Nullity) (entries : Schema) : (n.mapOf entries).StandsAlone :=
  ((standsAlone_start n).addKind _).put (by decide) _

/-- The schema of a primitive stands alone. -/
lemma standsAlone_primitiveSchema? {start s : Schema} (hstart : start.StandsAlone) {p : Primitive}
    (h : primitiveSchema? start p = some s) : s.StandsAlone := by
  unfold primitiveSchema? at h
  split_ifs at h <;> cases h
  · exact hstart.addKind _
  · exact hstart.addKind _
  · exact (hstart.addKind _).put (by decide) _
  · exact hstart.addKind _
  · exact hstart.addKind _

/-- One more property brings in nothing else. -/
lemma standsAlone_addProperty {s : Schema} (h : s.StandsAlone) (name : String) (required : Bool)
    (property : Schema) : (addProperty s name required property).StandsAlone := by
  unfold addProperty
  dsimp only
  split
  · exact (h.put (by decide) _).put (by decide) _
  · exact h.put (by decide) _

/-- Field by field, the schema of a record stands alone.

**Proof sketch.** Induction on the fields. A field that is left out changes nothing, and any other
one adds a property, by `standsAlone_addProperty`. -/
lemma standsAlone_deriveFields {fields : List (Label × Shape)} {s t : Schema} (hs : s.StandsAlone)
    (h : deriveFields fields s = some t) : t.StandsAlone := by
  induction fields generalizing s with
  | nil =>
    rw [deriveFields] at h
    cases h
    exact hs
  | cons field rest ih =>
    rw [deriveFields] at h
    split at h
    · exact ih hs h
    · split at h
      · split at h
        · cases h
        · exact ih (standsAlone_addProperty hs _ _ _) h
      · cases h

/-- The schema that is derived from a shape stands alone.

**Proof sketch.** By induction on the shape, where only pointers and names hand on the schema of what is
behind them. -/
lemma standsAlone_derive : ∀ {shape : Shape} {n : Nullity} {s : Schema},
    derive n shape = some s → s.StandsAlone
  | .primitive p, n, s, h => standsAlone_primitiveSchema? (standsAlone_start n) h
  | .anything, n, s, h | .raw, n, s, h => by
    rw [derive] at h
    cases h
    exact standsAlone_blank
  | .time, n, s, h => by
    rw [derive] at h
    cases h
    exact ((standsAlone_start n).addKind _).put (by decide) _
  | .role, n, s, h => by
    rw [derive] at h
    cases h
    exact (standsAlone_start n).addKind _
  | .pointer elem _, n, s, h | .named _ elem, n, s, h => by
    rw [derive] at h
    exact standsAlone_derive h
  | .slice elem, n, s, h => by
    rw [derive] at h
    split at h
    · cases h
      exact ((standsAlone_start n).addKind _).put (by decide) _
    · obtain ⟨items, -, rfl⟩ := Option.map_eq_some_iff.1 h
      exact standsAlone_listOf n items
  | .array elem, n, s, h => by
    rw [derive] at h
    obtain ⟨items, -, rfl⟩ := Option.map_eq_some_iff.1 h
    exact standsAlone_listOf n items
  | .map elem, n, s, h => by
    rw [derive] at h
    obtain ⟨entries, -, rfl⟩ := Option.map_eq_some_iff.1 h
    exact standsAlone_mapOf n entries
  | .record _ fields, n, s, h => by
    rw [derive] at h
    exact standsAlone_deriveFields (standsAlone_blank.addKind _) h

/-- **Schemas of shapes have no definitions and no further members.** -/
theorem standsAlone_of_schema? {shape : Shape} {s : Schema} (h : shape.schema? = some s) :
    s.StandsAlone :=
  standsAlone_derive h

end Shape

end SchemaKit
