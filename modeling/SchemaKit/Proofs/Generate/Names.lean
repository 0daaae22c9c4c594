import Mathlib.Data.List.Sort
import SchemaKit.Generate.Basic
import SchemaKit.Proofs.Catalog.Order
import SchemaKit.Proofs.Catalog.References
import SchemaKit.Proofs.Json.Reading
import SchemaKit.Proofs.Schema.Placing
import SchemaKit.Proofs.Users.RoundTrip

/-!
# The catalog of this library

The schemas of users, accounts and roles have no definitions inside them, and neither has the schema
that is derived for users by key. Their names differ by more than case. So all of them can stand in one
catalog, and nothing else is in it.

## Main definitions

* `SchemaKit.Schema.isFlat` — whether there is a schema, and one without definitions.
* `SchemaKit.Generate.entities`, `SchemaKit.Generate.names` — what is registered, and the names in the
  catalog.

## Main results

* `SchemaKit.Catalog.exists_schemaOf` — an entity whose schema has no definitions.
* `SchemaKit.Catalog.exists_register` — the catalog of entities that can be registered.
* `SchemaKit.Generate.exists_catalog` — the catalog of this library can be built, and holds four names.
-/

namespace SchemaKit

/-! ## Schemas without definitions -/

/-- Redirecting references adds no parts. -/
lemma Schema.part?_localized_eq_none {s : Schema} {k : Schema.Key} (h : s.part? k = none) :
    s.localized.part? k = none := by
  have hdrop : s.localized.drop k = s.localized := by
    rw [Schema.localized_drop, Schema.drop_eq_self h]
  rw [← hdrop, Schema.part?_drop_self]

/-- Whether there is a schema, and one without definitions. -/
def Schema.isFlat (o : Option Schema) : Bool := o.any fun s => (s.part? .definitions).isNone

/-- A schema without definitions. -/
lemma Schema.isFlat_iff {o : Option Schema} :
    Schema.isFlat o = true ↔ ∃ s, o = some s ∧ s.part? .definitions = none := by
  cases o <;> simp [Schema.isFlat]

namespace Catalog

/-- Definitions whose names differ by more than case can stand in one catalog. -/
lemma compatible_of_equalFold_eq_false {d e : String × Schema} (h : Text.equalFold d.1 e.1 = false) :
    Compatible d e := by
  refine ⟨fun hname => ?_, fun hfold => ?_⟩
  · rw [hname, Text.equalFold_iff.2 rfl] at h
    cases h
  · rw [hfold] at h
    cases h

/-- **An entity whose schema has no definitions** has one without them under its name: the example and
redirected references add none.

**Proof sketch.** An example is put under a key of its own, and redirecting references leaves the
parts where they are. -/
lemma exists_schemaOf {e : Entity} (hschema : Schema.isFlat (Schema.readText? e.schema.toList) = true)
    (hexample : ((Json.readWhole e.example_.toList).bind Json.canonical?).isSome = true) :
    ∃ s, schemaOf e = .ok s ∧ s.part? .definitions = none := by
  obtain ⟨s, hs, hflat⟩ := Schema.isFlat_iff.1 hschema
  obtain ⟨v, hv⟩ := Option.isSome_iff_exists.1 hexample
  rw [schemaOf, hs]
  by_cases hempty : e.example_ = ""
  · exact ⟨s.localized, by simp only [hempty, if_true], Schema.part?_localized_eq_none hflat⟩
  · refine ⟨(s.put .examples (.data (.arr [v]))).localized, by simp only [hempty, if_false, hv], ?_⟩
    exact Schema.part?_localized_eq_none (by rwa [Schema.part?_put_of_ne _ _ (by decide)])

/-- Entities that can be registered in the catalog without entries make up the catalog. -/
lemma exists_register {es : List Entity} (hflat : Flat es) (h : Registrable empty es) :
    ∃ c, empty.register es = (c, .ok ()) ∧ c.Sound ∧ ∀ n, n ∈ c.names ↔ n ∈ es.map (·.name) := by
  have hok := (register_eq_ok_iff sound_empty hflat).2 h
  refine ⟨(empty.register es).1, by rw [← hok], sound_empty.run (run_register empty es), fun n => ?_⟩
  rw [(Gathers.register sound_empty hflat hok).mem_names_iff h, List.mem_map]
  exact or_iff_right List.not_mem_nil

end Catalog

namespace Generate

open Catalog

/-- The entities of this library. -/
def entities : List Entity := [userEntity, accountEntity, roleEntity]

/-- The schema of users has no definitions. -/
lemma isFlat_userSchema : Schema.isFlat (Schema.readText? userSchema.toList) = true := by
  have hfits : Json.Fits Json.maxDepth userDocument :=
    ⟨by simp [userDocument, Json.WellFormed, Json.WellFormed.wellFormedItems,
      Json.WellFormed.wellFormedMembers], by decide⟩
  rw [Schema.readText?, userSchema_eq, Json.readWhole_indented hfits, Option.bind_some]
  decide +kernel

/-- The schema that is derived for users by key has no definitions. -/
lemma isFlat_userIndex : Schema.isFlat Shape.userIndex.schema? = true := by decide +kernel

/-- The entities have schemas without definitions. -/
lemma exists_schemaOf_entities :
    ∀ e ∈ entities, ∃ s, schemaOf e = .ok s ∧ s.part? .definitions = none := by
  have huser := exists_schemaOf (e := userEntity) isFlat_userSchema (by decide +kernel)
  have haccount := exists_schemaOf (e := accountEntity) isFlat_userSchema (by decide +kernel)
  have hrole := exists_schemaOf (e := roleEntity) (by decide +kernel) (by decide +kernel)
  simpa [entities] using ⟨huser, haccount, hrole⟩

/-- The entities are registered.

**Proof sketch.** The names are evaluated: none is empty, and no two of them are equal when case is
ignored. -/
lemma registrable_entities : Registrable empty entities where
  fits e he := by
    obtain ⟨s, hs, -⟩ := exists_schemaOf_entities e he
    have hnames : ∀ e ∈ entities, e.name ≠ "" := by
      simp [entities, userEntity, accountEntity, roleEntity]
    exact ⟨s, hs, hnames e he, nofun⟩
  compatible := by
    have hnames : entities.Pairwise fun e f => Text.equalFold e.name f.name = false := by
      decide +kernel
    refine hnames.imp fun {e f} hfold s t _ _ => ?_
    exact compatible_of_equalFold_eq_false hfold

/-- The names of the catalog, in ascending order. -/
def names : List String := ["User", "UserImpl", "UserMap", "UserRole"]

/-- **The catalog can be built**, and holds these four names.

**Proof sketch.** The schemas of the entities have no definitions and fit together, so all of them
are registered. The users by key come last; their name is new, also up to case, so that their schema
fits the catalog and joins it. -/
theorem exists_catalog : ∃ cat, catalog = .ok cat ∧ cat.names = names := by
  have hflat : Flat entities := by
    intro e he s hs
    obtain ⟨t, ht, htflat⟩ := exists_schemaOf_entities e he
    obtain rfl : s = t := Except.ok.inj (hs.symm.trans ht)
    exact htflat
  obtain ⟨c, hregister, hsound, hmem⟩ := exists_register hflat registrable_entities
  -- users by key come last, under a name that differs from the others
  obtain ⟨s, hs, hsflat⟩ := Schema.isFlat_iff.1 isFlat_userIndex
  have hfits : Fits c ("UserMap", s) := by
    refine ⟨by simp, fun m t ht => compatible_of_equalFold_eq_false ?_⟩
    have hnames : ∀ m ∈ entities.map (·.name), Text.equalFold m "UserMap" = false := by
      decide +kernel
    exact hnames m ((hmem m).1 (mem_names_of_get? ht))
  rcases add_cases hsound "UserMap" hsflat with ⟨hunfit, -⟩ | ⟨-, cat, hadd, hjoins⟩
  · exact absurd hfits hunfit
  · refine ⟨cat, ?_, ?_⟩
    · rw [catalog, ← entities, catalogOf, hregister]
      simp only [registerShape, hs, hadd]
    · have hcat : ∀ n, n ∈ cat.names ↔ n ∈ names := by
        intro n
        by_cases hn : n = "UserMap"
        · subst hn
          obtain ⟨t, ht, -⟩ := hjoins.self
          exact iff_of_true (mem_names_of_get? ht) (by decide)
        · rw [mem_names_iff, hjoins.other n hn, ← mem_names_iff, hmem]
          simp [entities, names, userEntity, accountEntity, roleEntity, hn]
      exact hjoins.sound.ascending.eq_of_mem_iff (by decide +kernel) hcat

end Generate

end SchemaKit
