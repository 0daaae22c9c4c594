import SchemaKit.Catalog.Lint

/-!
# Documents

A catalog is published as one document, with some information about it and the schemas as components.

## Main definitions

* `Publication` — title, version, description, and whether the document is looked over.
* `Obstacle` — why there is no document.
* `Catalog.values` — the schemas of a catalog as values.
* `Catalog.document` — the document with given schemas.
* `Catalog.publish` — the text of the document of a catalog, or why there is none.

## Design

A schema becomes part of the document by way of its text, which is read again, and the components are
checked as they are written. So there is a limit to how deep schemas can be nested in a document, and
it is lower than the one for schemas alone.
-/

namespace SchemaKit

/-- How a catalog is published. The document is looked over if `lint` is given; the rules that it lists
are ignored. -/
structure Publication where
  title : String
  version : String
  description : String
  lint : Option (List String)
  deriving DecidableEq, Repr

/-- How a catalog is published unless something else is asked for. -/
def Publication.standard : Publication := ⟨"Fixture Schemas", "1.0.0", "", none⟩

namespace Catalog

/-- Why a catalog is not published. -/
inductive Obstacle where
  | inconvertible (name : String)
  | tooDeep
  | faulty (findings : List Lint.Finding)
  deriving DecidableEq, Repr

/-- The wording of an obstacle. The writer's own words, about where it was called and about a value that
is nested too deep, are left out. -/
def Obstacle.message : Obstacle → String
  | inconvertible name =>
    "failed to convert definition " ++ name ++ ": <marshal>: <cause>"
  | tooDeep => "failed to marshal document: <marshal>: <cause>"
  | faulty fs =>
    "failed to validate the generated document: " ++ Text.joined "\n" (fs.map Lint.Finding.text)

/-- The information about a document. An empty description is left out. -/
def info (p : Publication) : Json :=
  .obj ([("title", .str p.title)] ++
    (if p.description = "" then [] else [("description", .str p.description)]) ++
    [("version", .str p.version)])

/-- Schemas as the values that are read from their texts, with members in ascending order and numbers
as doubles, up to the first that cannot be read. -/
def values : List (String × Schema) → Except Obstacle (List (String × Json))
  | [] => .ok []
  | (name, s) :: rest =>
    match (Json.readWhole s.text.toList).bind Json.canonical? with
    | none => .error (.inconvertible name)
    | some v => (values rest).map ((name, v) :: ·)

/-- The components of a document with given schemas. -/
def components (schemas : List (String × Json)) : Json :=
  .obj (if schemas.isEmpty then [] else [("schemas", .obj schemas)])

/-- The document with given schemas. -/
def document (p : Publication) (schemas : List (String × Json)) : Json :=
  .obj [("openapi", .str "3.1.0"), ("info", info p), ("components", components schemas)]

/-- The column in which the schemas start. -/
def schemasColumn (p : Publication) : Nat :=
  ("\x7b\"openapi\":\"3.1.0\",\"info\":" ++ (info p).compact ++
    ",\"components\":\x7b\"schemas\":").length + 1

/-- What is wrong with a document with given schemas. -/
def findings (p : Publication) (schemas : List (String × Json)) : List Lint.Finding :=
  match p.lint with
  | none => []
  | some ignored => Lint.findings ignored (schemasColumn p) (.obj schemas)

/-- The text of the document of a catalog, or why there is none. -/
def publish (c : Catalog) (p : Publication) : Except Obstacle String :=
  match values c.defs with
  | .error o => .error o
  | .ok schemas =>
    if Json.maxDepth < (components schemas).depth then .error .tooDeep
    else match findings p schemas with
      | [] => .ok (document p schemas).compact
      | fs => .error (.faulty fs)

end Catalog

end SchemaKit
