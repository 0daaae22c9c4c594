import SchemaKit.Decimal.Ratio
import SchemaKit.Json.Basic
import SchemaKit.Pattern.Basic

/-!
# Constraints

A schema restricts values by kind and by rules. References to other schemas are kept by name, so a
schema is a finite tree even where it speaks about itself.

## Main definitions

* `Kind` — the kinds of values that a schema can ask for.
* `Constraint` — a schema: everything, nothing, a reference, or kinds with rules.
* `Rule` — one restriction.
* `Rest` — what holds for members or items that nothing else speaks about.
-/

namespace SchemaKit.Validation

open Decimal (Ratio)

/-- A kind of values. -/
inductive Kind where
  | array
  | boolean
  | integer
  | number
  | null
  | object
  | string
  deriving DecidableEq, Repr

/-- The name of a kind. -/
def Kind.name : Kind → String
  | .array => "array"
  | .boolean => "boolean"
  | .integer => "integer"
  | .number => "number"
  | .null => "null"
  | .object => "object"
  | .string => "string"

/-- All kinds in the order of their names. -/
def Kind.all : List Kind := [.array, .boolean, .integer, .number, .null, .object, .string]

/-- The kind with this name. -/
def Kind.ofName? (name : String) : Option Kind := Kind.all.find? (·.name == name)

/-- The kind of a value. A number counts as an integer by its value, not by its notation. -/
def Kind.of : Json → Kind
  | .null => .null
  | .bool _ => .boolean
  | .num n => if n.isInteger then .integer else .number
  | .str _ => .string
  | .arr _ => .array
  | .obj _ => .object

/-- Whether a value of the kind `given` is admitted where the kind `k` is asked for. -/
def Kind.admits (k given : Kind) : Bool := k = given || (k = .number && given = .integer)

/-- The four kinds of numeric bounds. -/
inductive Side where
  | minimum
  | exclusiveMinimum
  | maximum
  | exclusiveMaximum
  deriving DecidableEq, Repr

/-- What is counted: characters, items or members. -/
inductive Measure where
  | length
  | items
  | properties
  deriving DecidableEq, Repr

mutual

/-- A schema. -/
inductive Constraint where
  | always (pass : Bool)
  | reference (target : String)
  | rules (kinds : List Kind) (rules : List Rule)

/-- One restriction of a schema. -/
inductive Rule where
  | members (properties : List (String × Constraint)) (patterns : List (Pattern × Constraint))
      (rest : Rest)
  | propertyNames (schema : Constraint)
  | requiredNames (names : List String)
  | dependentNames (name : String) (needed : List String)
  | dependentSchema (name : String) (schema : Constraint)
  | each (schema : Constraint)
  | positions (schemas : List Constraint) (rest : Rest)
  | containsOne (schema : Constraint)
  | distinct
  | least (what : Measure) (n : Nat)
  | most (what : Measure) (n : Nat)
  | multipleOf (divisor : Ratio)
  | bound (side : Side) (limit : Ratio)
  | pattern (source : String) (pattern : Pattern)
  | format (name : String)
  | const (text : String)
  | enum (texts : List String)
  | anyOf (schemas : List Constraint)
  | oneOf (schemas : List Constraint)
  | allOf (schemas : List Constraint)
  | negation (schema : Constraint)
  | conditional (test thenSchema elseSchema : Constraint)

/-- What holds for the remaining members or items. -/
inductive Rest where
  | anything
  | nothing
  | schema (s : Constraint)

end

instance : Inhabited Constraint := ⟨.always true⟩

/-- The schemas that references lead to. -/
abbrev Definitions := List (String × Constraint)

/-- A compiled schema: where checking starts, and what references lead to. -/
structure Compiled where
  root : Constraint
  definitions : Definitions

end SchemaKit.Validation
