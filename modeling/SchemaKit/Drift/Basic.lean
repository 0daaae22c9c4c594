import SchemaKit.Drift.Fault
import SchemaKit.Json.Reader
import SchemaKit.Schema.Reader

/-!
# Drift

A shape has drifted from its schema if data of that shape is not written as the schema says. The check
walks through the shape and stops at the first disagreement.

## Main definitions

* `Target` — a schema that a shape is compared with, behind references, with its kind.
* `resolve` — the target of a schema.
* `Place` — what is known about the value that stands for a shape.
* `waived` — whether a shape asks to be passed over.
* `walk` — compares a shape with a schema.
* `check` — compares the shape of a whole with its schema.

## Design

The walk is recursive in the shape. A pointer is followed once, after the schema is resolved, and what
lies behind it is compared with the resolved schema; so the walk has two stages, `Stage.arrival` and
`Stage.resolved`. A named shape asks once whether it is to be passed over, and goes on with the shape that it
names in the second stage.
-/

namespace SchemaKit.Drift

open Validation (Kind)
open Schema (Sub)

/-! ## Targets -/

/-- A schema behind references, its only kind other than null, and whether null is admitted. -/
structure Target where
  schema : Schema
  kind : Kind
  nullable : Bool

/-- The schema that a reference leads to, among the definitions of the root. -/
def follow (root : Schema) (ref : String) : Except Cause Schema :=
  match Text.afterStart? Schema.definitionsPath.toList ref.toList with
  | none => .error .foreignReference
  | some name =>
    match (Json.lookup? (root.entries .definitions) (String.ofList name)).bind Sub.schema? with
    | none => .error (.unknownReference ref)
    | some s => .ok s

/-- One alternative: null admits null, a reference replaces the schema. -/
def alternative (root : Schema) (acc : Schema × Bool) (sub : Sub) :
    Except Cause (Schema × Bool) :=
  match sub.schema? with
  | none => .ok acc
  | some s =>
    if s.isNull then .ok (acc.1, true)
    else match s.text? .ref with
      | none => .ok acc
      | some ref => (follow root ref).map fun target => (target, acc.2)

/-- Follows the reference of a schema, or those among its alternatives, one step. -/
def dereference (root s : Schema) : Except Cause (Schema × Bool) :=
  match s.text? .ref with
  | some ref => (follow root ref).map fun target => (target, false)
  | none => (s.subs .oneOf).foldlM (alternative root) (s, false)

/-- The kind of a schema: one kind, or one beside null. -/
def kindOf (s : Schema) : Except Cause (Kind × Bool) :=
  match s.kindSpec? with
  | none => .error .missingType
  | some (.one k) => .ok (k, false)
  | some (.list ks) =>
    match ks.filter (· ≠ .null) with
    | [k] => .ok (k, ks.contains .null)
    | others => .error (.typeCount others.length)

/-- The target of a schema. -/
def resolve (root s : Schema) : Except Cause Target := do
  let (target, nullableRef) ← dereference root s
  let (kind, nullableKind) ← kindOf target
  return ⟨target, kind, nullableRef || nullableKind⟩

/-! ## Places -/

/-- What is known about the value that stands for a shape: whether it has an address, and whether it is
blank, so that all pointers in it lead nowhere. -/
structure Place where
  addressed : Bool
  blank : Bool
  deriving DecidableEq, Repr

/-- A value that stands on its own. -/
def Place.root : Place := ⟨false, false⟩

/-- A value made for the purpose. -/
def Place.fresh : Place := ⟨true, true⟩

/-- Whether a pointer leads to a value. -/
def Place.leads (p : Place) (isSet : Bool) : Bool := isSet && !p.blank

/-- The value behind a pointer; one that leads nowhere gets a blank value. -/
def Place.behind (p : Place) (isSet : Bool) : Place :=
  if p.leads isSet then ⟨true, false⟩ else .fresh

/-- Whether a shape asks to be passed over. There is no answer for a pointer that leads nowhere where a
value would have to be asked. -/
def waived (s : Shape) (p : Place) : Except Fault Bool :=
  match s with
  | .pointer elem isSet =>
    match elem.waiver with
    | .none => .ok false
    | .value b => if p.leads isSet then .ok b else .error .undecidable
    | .addressed => .ok true
  | s =>
    match s.waiver with
    | .none => .ok false
    | .value b => .ok b
    | .addressed => .ok p.addressed

/-! ## Comparison -/

/-- Whether a shape is a pointer. -/
def isPointer : Shape → Bool
  | .pointer _ _ => true
  | _ => false

/-- Whether a shape can hold anything at all. -/
def isAnything : Shape → Bool
  | .anything => true
  | _ => false

/-- Where the walk stands: before a place of a schema, which may hold no schema, or in front of a
target. -/
inductive Stage where
  | arrival (schema : Option Schema) (omitted : Bool)
  | resolved (target : Target)

/-- The target to compare a shape with, if it is to be compared at all. -/
def enter (root : Schema) (s : Shape) (p : Place) (path : Path) :
    Stage → Except Fault (Option Target)
  | .resolved t => .ok (some t)
  | .arrival schema omitted => do
    if ← waived s p then return none
    match schema with
    | none => if isAnything s then throw (.found path .unspecified) else return none
    | some sch =>
      match resolve root sch with
      | .error cause => throw (.found path cause)
      | .ok t =>
        if isPointer s && !path.isEmpty && !t.nullable && !omitted then
          throw (.found path .notNullable)
        else return (some t)

/-- What a kind asks of a shape without parts to walk into. -/
def fits (k : Kind) (s : Shape) : Except Cause Unit :=
  let demand (met : Bool) (expected : Expected) : Except Cause Unit :=
    if met then .ok () else .error (.wrongKind s.kind expected)
  match k with
  | .boolean => demand (s.kind == Primitive.bool.name) (.kind k)
  | .integer => demand s.isInteger (.kind k)
  | .number => demand s.isNumber (.kind k)
  | .string => demand s.isText (.kind k)
  | .object => demand false .members
  | .array => demand false .list
  | .null => .error (.unknownType k)

/-- The comparison of a shape without parts to walk into. -/
def leaf (t : Target) (s : Shape) (path : Path) : Except Fault Unit :=
  match fits t.kind s with
  | .ok () => .ok ()
  | .error cause => .error (.found path cause)

/-- Whether a schema admits members that it does not name. -/
def isOpen (s : Schema) : Bool :=
  match s.sub? .additionalProperties with
  | some (.truth b) => b
  | _ => false

/-- Whether a schema forbids members that it does not name. -/
def isClosed (s : Schema) : Bool :=
  match s.sub? .additionalProperties with
  | some (.truth b) => !b
  | _ => false

/-- The names of the properties of a schema in ascending order. -/
def propertyNames (s : Schema) : List String := (s.entries .properties).map (·.1)

/-- The property that a member belongs to. A member that is always written has to be required. -/
def property (s : Schema) (m : Member) : Except Cause Sub :=
  match Json.lookup? (s.entries .properties) m.name with
  | none => .error (.missingProperty m.name)
  | some sub =>
    if !m.omitted && !s.required.contains m.name then .error (.requiredProperty m.name) else .ok sub

/-- The first property that no field is written to is a fault. -/
def leftover (s : Schema) (fields : List (Label × Shape)) (path : Path) : Except Fault Unit :=
  let names := fields.filterMap fun f => f.1.member?.map (·.name)
  match (propertyNames s).find? (!names.contains ·) with
  | some name => .error (.found path (.additionalProperty name))
  | none => .ok ()

/-- What a schema for items says about them; a schema for each position says nothing here. -/
def itemStage? (s : Schema) : Option Stage :=
  (s.sub? .items).map fun sub => .arrival sub.schema? false

/-- What a schema says about the values of a map. -/
def entryStage? (s : Schema) : Option Stage :=
  ((s.sub? .additionalProperties).bind Sub.schema?).map fun sch => .arrival (some sch) false

mutual

/-- Compares a shape with a schema. -/
def walk (root : Schema) (s : Shape) (p : Place) (path : Path) (stage : Stage) :
    Except Fault Unit :=
  match enter root s p path stage with
  | .error f => .error f
  | .ok none => .ok ()
  | .ok (some t) =>
    match s with
    | .anything | .raw => .ok ()
    | .pointer elem isSet =>
      match stage with
      | .arrival _ _ => walk root elem (p.behind isSet) path (.resolved t)
      | .resolved _ => leaf t (.pointer elem isSet) path
    | .slice elem =>
      match t.kind, itemStage? t.schema with
      | .array, some stage => walk root elem .fresh (.item :: path) stage
      | .array, none => .ok ()
      | _, _ => leaf t (.slice elem) path
    | .array elem =>
      match t.kind, itemStage? t.schema with
      | .array, some stage => walk root elem .fresh (.item :: path) stage
      | .array, none => .ok ()
      | _, _ => leaf t (.array elem) path
    | .map elem =>
      if t.kind = .object then
        if isClosed t.schema then .error (.found path (.closedMap (propertyNames t.schema)))
        else match entryStage? t.schema with
          | some stage => walk root elem .fresh (.entry :: path) stage
          | none => .ok ()
      else leaf t (.map elem) path
    | .record waiver fields =>
      if t.kind = .object then
        if isOpen t.schema then .error (.found path .openRecord)
        else match walkFields root t.schema fields p path with
          | .error f => .error f
          | .ok () => leftover t.schema fields path
      else leaf t (.record waiver fields) path
    | .time =>
      if t.kind = .object then
        if isOpen t.schema then .error (.found path .openRecord) else leftover t.schema [] path
      else leaf t .time path
    | .named _ base => walk root base p path (.resolved t)
    | .primitive q => leaf t (.primitive q) path
    | .role => leaf t .role path

/-- Compares the fields of a record with the properties of a schema. -/
def walkFields (root sch : Schema) (fields : List (Label × Shape)) (p : Place) (path : Path) :
    Except Fault Unit :=
  match fields with
  | [] => .ok ()
  | (label, s) :: rest =>
    match label.member? with
    | none => walkFields root sch rest p path
    | some m =>
      match property sch m with
      | .error cause => .error (.found path cause)
      | .ok sub =>
        match walk root s p (.member m.name :: path) (.arrival sub.schema? m.omitted) with
        | .error f => .error f
        | .ok () => walkFields root sch rest p path

end

/-- Compares the shape of a whole with its schema. A whole that can be anything has no value, so there is
nothing to compare once the schema is resolved. -/
def check (root : Schema) (s : Shape) : Except Fault Unit :=
  match s with
  | .anything =>
    match resolve root root with
    | .error cause => .error (.found [] cause)
    | .ok _ => .error .undecidable
  | s => walk root s .root [] (.arrival (some root) false)

/-! ## Texts -/

/-- Why something with this name does not agree with its schema. -/
inductive Refusal where
  | unreadable (name : String)
  | drifted (name : String) (fault : Fault)
  deriving DecidableEq, Repr

/-- The wording of a refusal. The reader's own words about a malformed text are left out. -/
def Refusal.message : Refusal → String
  | unreadable name => "error parsing schema for " ++ name ++ ": <cause>"
  | drifted name fault => fault.message name

/-- Compares a shape with the text of a schema. -/
def checkText (name : String) (schema : List Char) (s : Shape) : Except Refusal Unit :=
  match Schema.readText? schema with
  | none => .error (.unreadable name)
  | some root =>
    match check root s with
    | .ok () => .ok ()
    | .error fault => .error (.drifted name fault)

end SchemaKit.Drift
