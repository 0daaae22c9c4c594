import SchemaKit.Decimal.Digits
import SchemaKit.Schema.Refs
import SchemaKit.Shape.Basic

/-!
# Disagreements between shapes and schemas

## Main definitions

* `Step`, `Path` — where in a shape something was found.
* `Cause` — what was found.
* `Fault` — a cause with its place, or that no answer is possible.
-/

namespace SchemaKit.Drift

open Validation (Kind)

/-- A step into a shape: to a member of a record, to the items of a list, to the values of a map. -/
inductive Step where
  | member (name : String)
  | item
  | entry
  deriving DecidableEq, Repr

/-- A step in messages. -/
def Step.text : Step → String
  | member name => "." ++ name
  | item => ".0"
  | entry => "[key]"

/-- The steps that lead to a place, the last one first. -/
abbrev Path := List Step

/-- A path in messages, behind the name of the whole. -/
def Path.text (name : String) (path : Path) : String :=
  path.foldr (fun step acc => acc ++ step.text) name

/-- What a shape would have to be for a schema. -/
inductive Expected where
  | kind (k : Kind)
  | list
  | members
  deriving DecidableEq, Repr

/-- What is expected, in messages. -/
def Expected.text : Expected → String
  | kind k => k.name
  | list => "array or slice"
  | members => "map or struct"

/-- How a shape and a schema disagree, or why the schema cannot be used. -/
inductive Cause where
  | unspecified
  | foreignReference
  | unknownReference (ref : String)
  | missingType
  | typeCount (count : Nat)
  | unknownType (k : Kind)
  | openRecord
  | closedMap (keys : List String)
  | wrongKind (got : String) (expected : Expected)
  | notNullable
  | missingProperty (name : String)
  | additionalProperty (name : String)
  | requiredProperty (name : String)
  deriving DecidableEq, Repr

/-- The wording of a cause. -/
def Cause.message : Cause → String
  | unspecified => "an interface value should have a definite schema"
  | foreignReference => "references must be prefixed with " ++ Schema.definitionsPath
  | unknownReference ref => "could not find reference " ++ ref
  | missingType => "schema is missing a type"
  | typeCount n => "expected exactly one non-null type, got " ++ Decimal.text n
  | unknownType k => "unknown type " ++ k.name
  | openRecord => "struct schemas should not allow additional properties"
  | closedMap keys =>
    "schema strictly enumerates all valid keys (e.g. [" ++ Text.joined " " keys ++
      "]); the appropriate data type would be a struct, not a map"
  | wrongKind got expected => "got " ++ got ++ " when schema expects " ++ expected.text
  | notNullable => "must be nullable"
  | missingProperty name => "schema is missing property " ++ name
  | additionalProperty name => "schema has an additional property " ++ name
  | requiredProperty name =>
    "schema is missing required property (alternatively mark the field with omitempty) " ++ name

/-- A disagreement at a place, or that there is no answer because a value is missing that would have
to be asked. -/
inductive Fault where
  | found (path : Path) (cause : Cause)
  | undecidable
  deriving DecidableEq, Repr

/-- The wording of a fault, about something with this name. -/
def Fault.message (name : String) : Fault → String
  | found path cause => path.text name ++ ": " ++ cause.message
  | undecidable => ""

end SchemaKit.Drift
