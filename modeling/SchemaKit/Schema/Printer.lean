import SchemaKit.Json.Writable
import SchemaKit.Schema.Basic

/-!
# Writing schema documents

## Main definitions

* `Schema.json` — the document of a schema, keys in their order and further members behind them.
* `Schema.text` — its text.
* `Schema.isEncodable` — whether a schema can be written at all.
* `Schema.encoding?` — its text, if it can be written.

## Design

Every place of a schema where a schema may stand is written on its own, and what was written is looked
at before it goes into the text around it. There the limit for the depth of texts applies. It does not
apply to the text of the whole schema, nor to plain data and to further members, which are written
without being looked at.
-/

namespace SchemaKit.Schema

mutual

/-- The document of a schema. -/
def json : Schema → Json
  | .mk parts extra => .obj (partMembers parts ++ extra)

/-- The members of parts. -/
def partMembers : List (Key × Part) → List (String × Json)
  | [] => []
  | (k, p) :: rest => (k.name, p.json) :: partMembers rest

/-- The value of a part. -/
def Part.json : Part → Json
  | .data v => v
  | .one s => s.json
  | .list ss => .arr (subItems ss)
  | .named es => .obj (subMembers es)

/-- The value at a place. -/
def Sub.json : Sub → Json
  | .schema s => s.json
  | .truth b => .bool b
  | .nothing => .obj []
  | .names ns => .arr (ns.map .str)

/-- The values at several places. -/
def subItems : List Sub → List Json
  | [] => []
  | s :: rest => s.json :: subItems rest

/-- The values at named places. -/
def subMembers : List (String × Sub) → List (String × Json)
  | [] => []
  | (k, s) :: rest => (k, s.json) :: subMembers rest

end

/-- The text of a schema. -/
def text (s : Schema) : String := s.json.compact

/-! ## What can be written -/

/-- Whether the places of a part are nested no deeper than texts may be. Schemas for items are one
place, also if they are a list; in other lists every schema is one. -/
def Part.isShallow (k : Key) (p : Part) : Bool :=
  match p with
  | .data _ => true
  | .one s => s.json.depth ≤ Json.maxDepth
  | .list ss =>
    if k.form = .items then p.json.depth ≤ Json.maxDepth
    else ss.all fun s => s.json.depth ≤ Json.maxDepth
  | .named es => es.all fun e => e.2.json.depth ≤ Json.maxDepth

/-- Whether a schema can be written: all its numbers are literals, and none of its places is nested too
deep. -/
def isEncodable (s : Schema) : Bool :=
  s.json.isWritable && s.parts.all fun e => e.2.isShallow e.1

/-- The text of a schema, if it can be written. -/
def encoding? (s : Schema) : Option String := if s.isEncodable then some s.text else none

end SchemaKit.Schema
