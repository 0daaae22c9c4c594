import SchemaKit.Json.Canonical
import SchemaKit.Json.Float
import SchemaKit.Json.Reader
import SchemaKit.Schema.Basic
import SchemaKit.Shape.Basic
import SchemaKit.Text.Truth

/-!
# Schemas derived from shapes

## Main definitions

* `Schema.addKind`, `Schema.removeKind` — the kinds that a schema names.
* `Schema.describe?` — what the tag of a field says about the schema of the field.
* `Shape.schema?` — the schema of a shape, if the shape has one.
-/

namespace SchemaKit

open Validation (Kind)

namespace Schema

/-- The kinds that a schema names. -/
def kinds (s : Schema) : List Kind :=
  match s.kindSpec? with
  | none => []
  | some (.one k) => [k]
  | some (.list ks) => ks

/-- A schema that names these kinds: a single one stands alone. -/
def withKinds (s : Schema) : List Kind → Schema
  | [] => s.drop .type
  | [k] => s.put .type (.data (.str k.name))
  | ks => s.put .type (.data (.arr (ks.map fun k => .str k.name)))

/-- A schema that names one more kind, behind the others. -/
def addKind (s : Schema) (k : Kind) : Schema :=
  if s.kinds.contains k then s else s.withKinds (s.kinds ++ [k])

/-- A schema that does not name a kind. -/
def removeKind (s : Schema) (k : Kind) : Schema :=
  if s.kinds.contains k then s.withKinds (s.kinds.filter (· ≠ k)) else s

/-! ## Tags -/

/-- The key under which a tag speaks about a key of schemas. -/
def Key.tagName (k : Key) : String :=
  match k.name.toList with
  | '$' :: rest => String.ofList rest
  | _ => k.name

/-- The value that a tag writes out as JSON. -/
def jsonData? (value : String) : Option Json := (Json.readWhole value.toList).bind Json.canonical?

/-- A value that a tag gives as data of the schema: nothing, data, or that it makes no sense. It is
written as suits the kind of values besides null, and as JSON if no kind says more. Where there are no
values besides null, nothing is given. -/
def inlineData? (s : Schema) (value : String) : Option (Option Json) :=
  match (s.kinds.filter (· ≠ .null)).getLast? with
  | some .integer => (Json.integerOf? value).map fun i => some (.int i)
  | some .number => (Json.Numeral.ofText? value).map fun n => some (.num n)
  | some .string => some (some (.str value))
  | some .boolean => (Text.truth? value).map fun b => some (.bool b)
  | _ =>
    if s.kinds = [.null] || value = "" then some none
    else (jsonData? value).map fun v =>
      match v with
      | .null => none
      | v => some v

/-- A list of values as data; without values there are none. -/
def listData (vs : List Json) : Option Json := if vs.isEmpty then none else some (.arr vs)

/-- The values that a tag lists: as JSON, or else as texts with commas between them. -/
def enumData (value : String) : Option Json :=
  match jsonData? value with
  | some (.arr vs) => listData vs
  | some .null => none
  | _ =>
    if value = "" then none
    else listData ((Text.splitAll ',' value.toList).map fun t => .str (String.ofList t))

/-- The examples that a tag gives: a single one, and a list of them as JSON. -/
def examples? (s : Schema) (tag : String) : Option (List Json) := do
  let single ← match Shape.Tag.lookup? "example" tag with
    | none => some none
    | some value => s.inlineData? value
  let listed ← match Shape.Tag.lookup? "examples" tag with
    | none => some []
    | some value =>
      match jsonData? value with
      | some (.arr vs) => some vs
      | some .null => some []
      | _ => none
  return single.toList ++ listed

/-- The data that a value gives to a key: nothing, data, or that it makes no sense. -/
def valueData? (s : Schema) (k : Key) (value : String) : Option (Option Json) :=
  match k.form with
  | .text => some (some (.str value))
  | .flag => (Text.truth? value).map fun b => some (.bool b)
  | .number => (Json.Numeral.ofText? value).map fun n => some (.num n)
  | .count => (Json.integerOf? value).map fun i => some (.int i)
  | .floor => (Json.integerOf? value).map fun i => if i = 0 then none else some (.int i)
  | .anything => s.inlineData? value
  | .values => some (enumData value)
  | _ => some none

/-- The data that a tag gives to a key. -/
def tagData? (s : Schema) (k : Key) (tag : String) : Option (Option Json) :=
  if k = .examples then (s.examples? tag).map listData
  else
    match Shape.Tag.lookup? k.tagName tag with
    | none => some none
    | some value => s.valueData? k value

/-- A schema with what a tag says about it. -/
def describe? (s : Schema) (tag : String) : Option Schema :=
  (Key.table.map (·.1)).foldlM (fun s k =>
    (s.tagData? k tag).map fun data => data.elim s fun v => s.put k (.data v)) s

end Schema

namespace Shape

/-- What pointers mean for a schema: they admit null, null is admitted already, or they are looked
through. -/
inductive Nullity where
  | pending
  | admitted
  | ignored
  deriving DecidableEq, Repr

/-- Behind a pointer. -/
def Nullity.behind : Nullity → Nullity
  | ignored => ignored
  | _ => admitted

/-- A schema with nothing but null, if it is admitted. -/
def Nullity.start (n : Nullity) : Schema :=
  if n = .admitted then Schema.blank.addKind .null else .blank

/-- The schema of a list, from that of its items. -/
def Nullity.listOf (n : Nullity) (items : Schema) : Schema :=
  (n.start.addKind .array).put .items (.one (.schema items))

/-- The schema of a map, from that of its values. -/
def Nullity.mapOf (n : Nullity) (entries : Schema) : Schema :=
  (n.start.addKind .object).put .additionalProperties (.one (.schema entries))

/-- The schema of a primitive. Addresses, complex numbers, functions and channels have none. -/
def primitiveSchema? (start : Schema) (p : Primitive) : Option Schema :=
  if p = .bool then some (start.addKind .boolean)
  else if p = .string then some (start.addKind .string)
  else if p.isUnsigned then some ((start.addKind .integer).put .minimum (.data (.int 0)))
  else if p.isInteger then some (start.addKind .integer)
  else if p.isFloat then some (start.addKind .number)
  else none

/-- The flag that a tag sets; a value that is no truth value makes no sense. -/
def tagFlag? (key tag : String) : Option (Option Bool) :=
  match Tag.lookup? key tag with
  | none => some none
  | some value => (Text.truth? value).map some

/-- Whether the values of a field can be missing although the field is always written: lists, maps, and
records behind pointers. -/
def isNullable (s : Schema) (field : Shape) : Bool :=
  let kinds := s.kinds
  let isPointer := match field with
    | .pointer _ _ => true
    | _ => false
  kinds.contains .array ||
    (kinds.contains .object && ((s.entries .properties).isEmpty || isPointer))

/-- The schema of a field, with null where the field asks for it. -/
def withNull (s : Schema) (field : Shape) (omitted : Bool) : Option Bool → Schema
  | some true => s.addKind .null
  | some false => s.removeKind .null
  | none => if !omitted && isNullable s field then s.addKind .null else s

/-- The property that a field becomes, if it becomes one: its name, whether it can be left out, and
whether it is required. A field without a tag becomes none. -/
def property? (l : Label) : Option (String × Bool) :=
  match Tag.lookup? "json" l.tag with
  | none => none
  | some value =>
    if value = "-" || !l.isExported then none
    else
      let name := (Tag.splitName value).1
      some (if name = "" then l.name else name, Text.occurs ",omitempty".toList value.toList)

/-- A record's schema with one more property. -/
def addProperty (s : Schema) (name : String) (required : Bool) (property : Schema) : Schema :=
  let s := s.put .properties
    (.named (Json.insertSorted name (.schema property) (s.entries .properties)))
  if required then s.put .required (.data (.arr (s.values .required ++ [.str name]))) else s

mutual

/-- The schema of a shape. -/
def derive (n : Nullity) : Shape → Option Schema
  | .primitive p => primitiveSchema? n.start p
  | .anything | .raw => some .blank
  | .time => some ((n.start.addKind .string).put .format (.data (.str "date-time")))
  | .role => some (n.start.addKind .string)
  | .pointer elem _ => derive n.behind elem
  | .slice elem =>
    if (Shape.slice elem).isBytes then
      some ((n.start.addKind .string).put .format (.data (.str "base64")))
    else (derive .ignored elem).map n.listOf
  | .array elem => (derive .ignored elem).map n.listOf
  | .map elem => (derive .ignored elem).map n.mapOf
  | .record _ fields => deriveFields fields (Schema.blank.addKind .object)
  | .named _ base => derive n base

/-- The schema of a record, field by field. -/
def deriveFields : List (Label × Shape) → Schema → Option Schema
  | [], s => some s
  | (label, field) :: rest, s =>
    match property? label with
    | none => deriveFields rest s
    | some (name, omitted) =>
      match tagFlag? "required" label.tag, tagFlag? "nullable" label.tag, derive .pending field with
      | some required, some nullable, some property =>
        match (withNull property field omitted nullable).describe? label.tag with
        | none => none
        | some property => deriveFields rest (addProperty s name (required = some true) property)
      | _, _, _ => none

end

/-- The schema of a shape, if the shape has one. -/
def schema? (s : Shape) : Option Schema := derive .pending s

end Shape

end SchemaKit
