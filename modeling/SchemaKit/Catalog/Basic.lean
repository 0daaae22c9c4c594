import SchemaKit.Diff.Printer
import SchemaKit.Entity
import SchemaKit.Schema.Printer
import SchemaKit.Schema.Reader
import SchemaKit.Schema.Refs
import SchemaKit.Shape.Derive
import SchemaKit.Text.Kebab

/-!
# Catalogs

A catalog holds schemas by name. Definitions inside a schema become entries of their own.

## Main definitions

* `Catalog` — schemas in ascending order of their names.
* `Refusal` — why something is not added.
* `Catalog.judge` — what adding a schema under a name would do.
* `Catalog.add` — adds a schema and the definitions inside it.
* `Catalog.register` — adds the schema and the example of an entity.
* `fileName` — the file that a definition is written to.

## Design

Adding returns the catalog also when it fails, because what was added before the failure stays.
-/

namespace SchemaKit

open Schema (Key Part Sub)

/-- Schemas by name, in ascending order of the names. -/
structure Catalog where
  defs : List (String × Schema)

namespace Catalog

/-- Why something is not added to a catalog. -/
inductive Refusal where
  | emptyName
  | different (name diff : String)
  | conflicting (other name : String)
  | unreadableSchema (name : String)
  | unreadableExample (name : String)
  | entity (name : String) (cause : Refusal)
  | shapeless (name kind : String)
  deriving DecidableEq, Repr

/-- The wording of a refusal. The reader's own words about a malformed text are left out. -/
def Refusal.message : Refusal → String
  | emptyName => "definition name cannot be empty"
  | different name diff =>
    "definition with name [" ++ name ++ "] already registered with a different schema:\n" ++ diff
  | conflicting other name =>
    "conflicting definitions: " ++ Text.quote other ++ " and " ++ Text.quote name
  | unreadableSchema name => "error unmarshalling schema for " ++ name ++ ": <cause>"
  | unreadableExample name => "error unmarshalling example for " ++ name ++ ": <cause>"
  | entity name cause => "failed to add definition for " ++ name ++ ": " ++ cause.message
  | shapeless name kind => "failed to reflect " ++ name ++ ": #: type is not supported: " ++ kind

/-- The catalog without entries. -/
def empty : Catalog := ⟨[]⟩

/-- The names of a catalog in ascending order. -/
def names (c : Catalog) : List String := c.defs.map (·.1)

/-- The schema under a name. -/
def get? (c : Catalog) (name : String) : Option Schema := Json.lookup? c.defs name

/-- Puts a schema under a name. -/
def insert (c : Catalog) (name : String) (s : Schema) : Catalog :=
  ⟨Json.insertSorted name s c.defs⟩

/-! ## Comparison -/

/-- What counts in the comparison of two schemas: everything but examples. -/
def essence (s : Schema) : Json := (s.drop .examples).json

/-- The text that is compared. A schema that cannot be written has none. -/
def essenceText? (s : Schema) : Option String := (s.drop .examples).encoding?

/-- Whether two schemas are the same apart from examples. It is not looked at why a text is missing, so
that schemas that cannot be written are all the same. -/
def isSame (s t : Schema) : Bool := essenceText? s == essenceText? t

/-- The text in which a schema is shown beside another one: over several lines, unless it is nested too
deep to be laid out. -/
def shown (s : Schema) : String :=
  match essenceText? s with
  | none => ""
  | some text => if (essence s).depth ≤ Json.maxDepth then (essence s).indented else text

/-- The difference between two schemas. -/
def difference (s t : Schema) : String := Diff.between (shown s) (shown t)

/-! ## Adding -/

/-- Whether a schema has examples. -/
def hasExamples (s : Schema) : Bool := !(s.values .examples).isEmpty

/-- What adding a schema under a name would do: it is refused, it changes nothing (`false`), or the schema
is stored (`true`). A schema without examples does not replace one with examples. -/
def judge (c : Catalog) (name : String) (s : Schema) : Except Refusal Bool :=
  if name = "" then .error .emptyName
  else match c.get? name with
    | some old =>
      if !isSame old s then .error (.different name (difference old s))
      else .ok (!(hasExamples old && !hasExamples s))
    | none =>
      match c.names.find? (Text.equalFold · name) with
      | some other => .error (.conflicting other name)
      | none => .ok true

mutual

/-- Adds a schema under a name, and then the definitions inside it. -/
def add : Schema → (name : String) → Catalog → Catalog × Except Refusal Unit
  | .mk parts extra, name, c =>
    match c.judge name (.mk parts extra) with
    | .error r => (c, .error r)
    | .ok false => (c, .ok ())
    | .ok true => addParts parts (c.insert name ((Schema.mk parts extra).drop .definitions))

/-- Adds the definitions among the parts of a schema. -/
def addParts : List (Key × Part) → Catalog → Catalog × Except Refusal Unit
  | [], c => (c, .ok ())
  | (k, p) :: rest, c => if k = .definitions then addPart p c else addParts rest c

/-- Adds the definitions of a part. -/
def addPart : Part → Catalog → Catalog × Except Refusal Unit
  | .named entries, c => addEntries entries c
  | _, c => (c, .ok ())

/-- Adds definitions one by one, up to the first that is refused. -/
def addEntries : List (String × Sub) → Catalog → Catalog × Except Refusal Unit
  | [], c => (c, .ok ())
  | (name, sub) :: rest, c =>
    match addSub sub name c with
    | (c, .ok ()) => addEntries rest c
    | refused => refused

/-- Adds a definition. A truth value is passed over. -/
def addSub : Sub → (name : String) → Catalog → Catalog × Except Refusal Unit
  | .schema s, name, c => add s name c
  | _, _, c => (c, .ok ())

end

/-- The schema of an entity: its text as a schema, with its example as the only one if it has one, and
with references into the components of a document. -/
def schemaOf (e : Entity) : Except Refusal Schema :=
  match Schema.readText? e.schema.toList with
  | none => .error (.unreadableSchema e.name)
  | some s =>
    if e.example_ = "" then .ok s.localized
    else
      match (Json.readWhole e.example_.toList).bind Json.canonical? with
      | none => .error (.unreadableExample e.name)
      | some v => .ok (s.put .examples (.data (.arr [v]))).localized

/-- Adds an entity. -/
def registerOne (c : Catalog) (e : Entity) : Catalog × Except Refusal Unit :=
  match schemaOf e with
  | .error r => (c, .error r)
  | .ok s =>
    match add s e.name c with
    | (c, .ok ()) => (c, .ok ())
    | (c, .error r) => (c, .error (.entity e.name r))

/-- Adds entities one by one, up to the first that is refused. -/
def register (c : Catalog) : List Entity → Catalog × Except Refusal Unit
  | [] => (c, .ok ())
  | e :: rest =>
    match c.registerOne e with
    | (c, .ok ()) => c.register rest
    | refused => refused

/-- Adds the schema of a shape. -/
def registerShape (c : Catalog) (name : String) (s : Shape) : Catalog × Except Refusal Unit :=
  match s.schema? with
  | none => (c, .error (.shapeless name s.kind))
  | some schema => add schema name c

/-- The file that a definition is written to. -/
def fileName (name : String) : String :=
  String.ofList (Text.kebab name.toList) ++ ".schema.json"

end Catalog

end SchemaKit
