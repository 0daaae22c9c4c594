import SchemaKit.Json.Printer
import SchemaKit.Text.Split
import SchemaKit.Validation.Constraint

/-!
# Faults

A fault is a restriction that a value at some place of a document breaks.

## Main definitions

* `Cause` — what is broken.
* `Fault` — a cause with the place where it arose.
* `Violation` — a fault as it is reported: place, message and details.
* `Violation.sort` — the order of reports: by message, then by place, then by details.
-/

namespace SchemaKit.Validation

open Decimal (Ratio)

/-- What is broken. -/
inductive Cause where
  | missing (property : String)
  | unknownKey (property : String)
  | kind (expected : List Kind) (given : Kind)
  | tooFew (what : Measure) (n : Nat)
  | tooMany (what : Measure) (n : Nat)
  | pattern (source : String)
  | format (name : String)
  | enum (texts : List String)
  | const (text : String)
  | multipleOf (divisor : Ratio)
  | bound (side : Side) (limit : Ratio)
  | noMoreItems
  | notDistinct (i j : Nat)
  | containsNone
  | propertyName (property : String)
  | dependency (property : String)
  | never
  | negation
  | thenFailed
  | elseFailed
  | noneOf
  | notOneOf
  | notAllOf
  deriving Repr

/-- A cause and its place, the names and positions from the innermost to the outermost. -/
structure Fault where
  path : List String
  cause : Cause
  deriving Repr

/-- A fault as it is reported. -/
structure Violation where
  field : String
  message : String
  details : List (String × String)
  deriving DecidableEq, Repr

/-- How a document as a whole is named. -/
def rootName : String := "(root)"

/-- The names of several kinds: one alone, more of them in brackets. -/
def kindsText (kinds : List Kind) : String :=
  match kinds with
  | [k] => k.name
  | ks => "[" ++ Text.joined "," (ks.map Kind.name) ++ "]"

namespace Cause

/-- The faults of combined schemas themselves, which the faults of their parts explain. -/
def isCombined : Cause → Bool
  | noneOf | notOneOf | notAllOf => true
  | _ => false

/-- The particulars of a cause. -/
def particulars : Cause → List (String × String)
  | missing p | unknownKey p | propertyName p => [("property", p)]
  | kind expected given => [("expected", kindsText expected), ("given", given.name)]
  | tooFew _ n => [("min", Decimal.text n)]
  | tooMany _ n => [("max", Decimal.text n)]
  | pattern source => [("pattern", source)]
  | format name => [("format", name)]
  | enum texts => [("allowed", Text.joined ", " texts)]
  | const text => [("allowed", text)]
  | multipleOf r => [("multiple", r.text)]
  | bound .minimum r | bound .exclusiveMinimum r => [("min", r.text)]
  | bound .maximum r | bound .exclusiveMaximum r => [("max", r.text)]
  | notDistinct i j => [("type", "array"), ("i", Decimal.text i), ("j", Decimal.text j)]
  | dependency p => [("dependency", p)]
  | _ => []

/-- What is wrong, in words, at the place `field`. -/
def description (field : String) : Cause → String
  | tooFew .items n => "Array must have at least " ++ Decimal.text n ++ " items"
  | tooMany .items n => "Array must have at most " ++ Decimal.text n ++ " items"
  | tooFew _ n => "Must have at least " ++ Decimal.text n ++ " properties"
  | tooMany _ n => "Must have at most " ++ Decimal.text n ++ " properties"
  | const text => field ++ " does not match: " ++ text
  | multipleOf r => "Must be a multiple of " ++ r.text
  | bound .minimum r => "Must be greater than or equal to " ++ r.text
  | bound .exclusiveMinimum r => "Must be greater than " ++ r.text
  | bound .maximum r => "Must be less than or equal to " ++ r.text
  | bound .exclusiveMaximum r => "Must be less than " ++ r.text
  | noMoreItems => "No additional items allowed on array"
  | notDistinct i j =>
    "array items[" ++ Decimal.text i ++ "," ++ Decimal.text j ++ "] must be unique"
  | containsNone => "At least one of the items must match"
  | propertyName p => "Property name of \"" ++ p ++ "\" does not match"
  | dependency p => "Has a dependency on " ++ p
  | never => "False always fails validation"
  | negation => "Must not validate the schema (not)"
  | thenFailed => "Must validate \"then\" as \"if\" was valid"
  | elseFailed => "Must validate \"else\" as \"if\" was not valid"
  | _ => ""

/-- The message about a cause; `field` is the name of the place, `subject` how a sentence
calls it. -/
def message (field subject : String) : Cause → String
  | missing p => "field '" ++ p ++ "' is required"
  | tooFew .length _ => subject ++ " is too short"
  | tooMany .length _ => subject ++ " is too long"
  | unknownKey p => subject ++ " has unknown key '" ++ p ++ "'"
  | kind expected given => subject ++ " must be " ++ kindsText expected ++ ", got " ++ given.name
  | enum texts => subject ++ " must be one of " ++ Text.joined ", " texts
  | pattern source => subject ++ " must match pattern " ++ source
  | format name => subject ++ " must be a valid " ++ name
  | c => subject ++ ": " ++ c.description field

end Cause

namespace Fault

/-- The place of a fault from the root on. -/
def context (f : Fault) : String := Text.joined "." (rootName :: f.path.reverse)

/-- The place of a fault without the root in front; the root itself keeps its name. -/
def place (f : Fault) : String :=
  match Text.afterStart? (rootName ++ ".").toList f.context.toList with
  | some rest => String.ofList rest
  | none => f.context

/-- The place as reports name it: the document as a whole has the empty name. -/
def field (f : Fault) : String := if f.place = rootName then "" else f.place

/-- How a sentence calls the place. -/
def subject (f : Fault) : String :=
  if f.field = "" then "document" else "field '" ++ f.field ++ "'"

/-- The report of a fault. -/
def violation (f : Fault) : Violation :=
  { field := f.field
    message := f.cause.message f.place f.subject
    details := Json.sortLast
      (f.cause.particulars ++ [("context", f.context), ("field", f.place)]) }

end Fault

namespace Violation

/-- The text of the details as a JSON object. -/
def detailsText (v : Violation) : String :=
  Json.compact (.obj (v.details.map fun (k, t) => (k, .str t)))

/-- The order of reports. -/
def le (a b : Violation) : Bool :=
  if a.message ≠ b.message then decide (a.message < b.message)
  else if a.field ≠ b.field then decide (a.field < b.field)
  else decide (a.detailsText ≤ b.detailsText)

/-- Reports in ascending order. -/
def sort (vs : List Violation) : List Violation := vs.mergeSort le

end Violation

end SchemaKit.Validation
