import SchemaKit.Schema.Basic
import SchemaKit.Text.Split

/-!
# References in schema documents

References are redirected in place. The walk goes into members and items, combined schemas and
definitions.

## Main definitions

* `Key.isWalked` — the keys below which references are redirected.
* `Schema.mapRefs` — a schema with its references redirected.
* `componentRef` — a reference into the definitions of a schema as one into the components of a
  document.
-/

namespace SchemaKit.Schema

/-- The keys below which references are redirected. -/
def Key.isWalked : Key → Bool
  | .additionalProperties | .additionalItems | .contains | .negation | .items | .properties
  | .allOf | .anyOf | .oneOf => true
  | _ => false

/-- A redirected reference. -/
def mapRef (f : String → String) (v : Json) : Json :=
  match v with
  | .str s => .str (f s)
  | v => v

mutual

/-- Redirects the references of a schema. At the `outer` level its definitions are walked as well. -/
def mapRefs (f : String → String) (outer : Bool) : Schema → Schema
  | .mk parts extra => .mk (mapParts f outer parts) extra

/-- Part by part. -/
def mapParts (f : String → String) (outer : Bool) : List (Key × Part) → List (Key × Part)
  | [] => []
  | (k, p) :: rest =>
    let p :=
      if k = .ref then mapData f p
      else if k.isWalked then mapPart f false p
      else if outer && k = .definitions then mapPart f true p
      else p
    (k, p) :: mapParts f outer rest

/-- The reference of a schema. -/
def mapData (f : String → String) : Part → Part
  | .data v => .data (mapRef f v)
  | p => p

/-- The schemas of a part. -/
def mapPart (f : String → String) (outer : Bool) : Part → Part
  | .data v => .data v
  | .one s => .one (mapSub f outer s)
  | .list ss => .list (mapSubs f outer ss)
  | .named es => .named (mapNamed f outer es)

/-- The schema at a place. -/
def mapSub (f : String → String) (outer : Bool) : Sub → Sub
  | .schema s => .schema (mapRefs f outer s)
  | s => s

/-- Place by place. -/
def mapSubs (f : String → String) (outer : Bool) : List Sub → List Sub
  | [] => []
  | s :: rest => mapSub f outer s :: mapSubs f outer rest

/-- Place by place. -/
def mapNamed (f : String → String) (outer : Bool) : List (String × Sub) → List (String × Sub)
  | [] => []
  | (k, s) :: rest => (k, mapSub f outer s) :: mapNamed f outer rest

end

/-- Where a schema keeps its definitions. -/
def definitionsPath : String := "#/definitions/"

/-- Where a document keeps its components. -/
def componentsPath : String := "#/components/schemas/"

/-- A text without `start` at its start. -/
def stripStart (start s : String) : String :=
  match Text.afterStart? start.toList s.toList with
  | some rest => String.ofList rest
  | none => s

/-- A reference as one into the components of a document. -/
def componentRef (ref : String) : String :=
  componentsPath ++ stripStart componentsPath (stripStart definitionsPath ref)

/-- A schema whose references lead into the components of a document. -/
def localized (s : Schema) : Schema := s.mapRefs componentRef true

end SchemaKit.Schema
