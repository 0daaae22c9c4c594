import SchemaKit.Schema.Key
import SchemaKit.Validation.Constraint

/-!
# Schema documents

A schema document is kept as data: what each key says, in the order in which keys are written, and
the members whose names are no keys.

## Main definitions

* `Schema` — a schema document.
* `Schema.Part` — what a key says.
* `Schema.Sub` — a place where a schema may stand.
* `Schema.part?`, `Schema.put`, `Schema.drop` — the part of a key.

## Design

Parts are a list and not one field per key, because almost everything that is done with a schema
treats keys of one form alike: reading, writing, comparing, and redirecting references.
-/

namespace SchemaKit

open Schema (Key)

mutual

/-- A schema document: the parts of its keys in the order of the keys, and further members. -/
inductive Schema where
  | mk (parts : List (Key × Schema.Part)) (extra : List (String × Json))

/-- What a key says: plain data, one schema, a list of schemas, or schemas by name. -/
inductive Schema.Part where
  | data (v : Json)
  | one (s : Schema.Sub)
  | list (ss : List Schema.Sub)
  | named (entries : List (String × Schema.Sub))

/-- A place where a schema may stand: a schema, a truth value, or nothing. In dependencies also a
list of names. -/
inductive Schema.Sub where
  | schema (s : Schema)
  | truth (b : Bool)
  | nothing
  | names (ns : List String)

end

namespace Schema

/-- The document without any keys. -/
def blank : Schema := .mk [] []

instance : Inhabited Schema := ⟨blank⟩

/-- The parts of a schema. -/
def parts : Schema → List (Key × Part)
  | .mk ps _ => ps

/-- The members whose names are no keys. -/
def extra : Schema → List (String × Json)
  | .mk _ es => es

/-- The part of a key. -/
def part? (s : Schema) (k : Key) : Option Part :=
  (s.parts.find? (·.1 = k)).map (·.2)

/-- Puts a part in its place, over one with the same key. -/
def insertPart (k : Key) (p : Part) : List (Key × Part) → List (Key × Part)
  | [] => [(k, p)]
  | (k', p') :: rest =>
    if k = k' then (k, p) :: rest
    else if k.rank < k'.rank then (k, p) :: (k', p') :: rest
    else (k', p') :: insertPart k p rest

/-- A schema with a part. -/
def put (s : Schema) (k : Key) (p : Part) : Schema := .mk (insertPart k p s.parts) s.extra

/-- A schema without the part of a key. -/
def drop (s : Schema) (k : Key) : Schema := .mk (s.parts.filter (·.1 ≠ k)) s.extra

/-- A schema with a part, or without it if there is none. -/
def set (s : Schema) (k : Key) : Option Part → Schema
  | some p => s.put k p
  | none => s.drop k

/-! ## Views -/

/-- The text of a key. -/
def text? (s : Schema) (k : Key) : Option String :=
  match s.part? k with
  | some (.data (.str t)) => some t
  | _ => none

/-- The values of a key. -/
def values (s : Schema) (k : Key) : List Json :=
  match s.part? k with
  | some (.data (.arr vs)) => vs
  | _ => []

/-- The schema place of a key. -/
def sub? (s : Schema) (k : Key) : Option Sub :=
  match s.part? k with
  | some (.one sub) => some sub
  | _ => none

/-- The list of schemas of a key. -/
def subs (s : Schema) (k : Key) : List Sub :=
  match s.part? k with
  | some (.list ss) => ss
  | _ => []

/-- The schemas by name of a key. -/
def entries (s : Schema) (k : Key) : List (String × Sub) :=
  match s.part? k with
  | some (.named es) => es
  | _ => []

/-- The schema at a place, if there is one. -/
def Sub.schema? : Sub → Option Schema
  | .schema s => some s
  | _ => none

/-- The names in a list of texts. -/
def namesOf (vs : List Json) : List String :=
  vs.filterMap fun v =>
    match v with
    | .str s => some s
    | _ => none

/-- The required names. -/
def required (s : Schema) : List String := namesOf (s.values .required)

/-- The kinds that a schema names: one of them, or a list. -/
inductive KindSpec where
  | one (k : Validation.Kind)
  | list (ks : List Validation.Kind)

/-- The kinds of values, if the schema says something about them. -/
def kindSpec? (s : Schema) : Option KindSpec :=
  match s.part? .type with
  | some (.data (.str t)) => (Validation.Kind.ofName? t).map .one
  | some (.data (.arr vs)) => some (.list ((namesOf vs).filterMap Validation.Kind.ofName?))
  | _ => none

/-- Whether the schema names the kind null and no other. -/
def isNull (s : Schema) : Bool :=
  match s.kindSpec? with
  | some (.one .null) => true
  | _ => false

end Schema

end SchemaKit
