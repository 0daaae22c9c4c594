import SchemaKit.Json.Pointer
import SchemaKit.Uri.Basic
import SchemaKit.Validation.Constraint

/-!
# Keywords and defects of schemas

## Main definitions

* `Edition` — the editions of the schema language. Without a declaration a schema may use the
  keywords of all of them.
* `Keyword` — the keywords, in the order in which a schema is read.
* `Defect` — what can be wrong with a schema.
-/

namespace SchemaKit.Validation

/-- An edition of the schema language. -/
inductive Edition where
  | four
  | six
  | seven
  | mixed
  deriving DecidableEq, Repr

/-- The edition that a declaration names, if it is known. -/
def Edition.ofUri? (uri : String) : Option Edition :=
  match uri with
  | "http://json-schema.org/draft-04/schema" => some .four
  | "http://json-schema.org/draft-06/schema" => some .six
  | "http://json-schema.org/draft-07/schema" => some .seven
  | _ => none

/-- Edition six brought schemas that are plain truth values, and some keywords. -/
def Edition.fromSix (e : Edition) : Bool := e ≠ .four

/-- Edition seven brought conditions. -/
def Edition.fromSeven (e : Edition) : Bool := e = .seven || e = .mixed

/-- A keyword. -/
inductive Keyword where
  | oldId
  | newId
  | definitions
  | title
  | description
  | reference
  | type
  | properties
  | additionalProperties
  | patternProperties
  | propertyNames
  | dependencies
  | items
  | additionalItems
  | multipleOf
  | minimum
  | exclusiveMinimum
  | maximum
  | exclusiveMaximum
  | minLength
  | maxLength
  | pattern
  | format
  | minProperties
  | maxProperties
  | required
  | minItems
  | maxItems
  | uniqueItems
  | contains
  | const
  | enum
  | oneOf
  | anyOf
  | allOf
  | negation
  | condition
  | consequence
  | alternative
  deriving DecidableEq, Repr

namespace Keyword

/-- All keywords with their names, in the order in which a schema is read. -/
def table : List (String × Keyword) :=
  [("id", oldId), ("$id", newId), ("definitions", definitions), ("title", title),
    ("description", description), ("$ref", reference), ("type", type),
    ("properties", properties), ("additionalProperties", additionalProperties),
    ("patternProperties", patternProperties), ("propertyNames", propertyNames),
    ("dependencies", dependencies), ("items", items), ("additionalItems", additionalItems),
    ("multipleOf", multipleOf), ("minimum", minimum), ("exclusiveMinimum", exclusiveMinimum),
    ("maximum", maximum), ("exclusiveMaximum", exclusiveMaximum), ("minLength", minLength),
    ("maxLength", maxLength), ("pattern", pattern), ("format", format),
    ("minProperties", minProperties), ("maxProperties", maxProperties), ("required", required),
    ("minItems", minItems), ("maxItems", maxItems), ("uniqueItems", uniqueItems),
    ("contains", contains), ("const", const), ("enum", enum), ("oneOf", oneOf), ("anyOf", anyOf),
    ("allOf", allOf), ("not", negation), ("if", condition), ("then", consequence),
    ("else", alternative)]

/-- The keyword with this name. -/
def ofName? (name : String) : Option Keyword := Json.lookup? table name

/-- The position of a name in the order of reading; names that are no keywords come last. -/
def rank (name : String) : Nat := table.findIdx (·.1 == name)

/-- The name of a keyword. -/
def name (k : Keyword) : String := ((table.find? (·.2 = k)).map (·.1)).getD ""

/-- Keywords whose value is first asked for its kind. -/
def asksKind : Keyword → Bool
  | multipleOf | minimum | maximum | minLength | maxLength | format | minProperties
  | maxProperties | minItems | maxItems | const => false
  | _ => true

end Keyword

/-- What can be wrong with a schema. -/
inductive Defect where
  | notSchema
  | notObjectOrBoolean
  | wrongType (expected given : String)
  | mustBeOfType (key type : String)
  | mustBeA (key : Keyword) (thing : String)
  | mustBeAn (key : Keyword) (thing : String)
  | needs (key other : Keyword)
  | exceeds (lesser greater : Keyword)
  | negative (key : Keyword)
  | notPositive (key : Keyword)
  | unknownType (name : String)
  | repeatedType (name : String)
  | repeatedItem (key : Keyword)
  | itemsMustBe (key : Keyword) (type : String)
  | badPattern (key : Keyword)
  | badNamePattern (source : String)
  | uri (fault : Uri.ParseFault)
  | pointer (fault : Json.Pointer.Fault)
  | notAbsolute (reference : String)
  | outOfReach (reference : String)
  | unreadableNumber
  | unrepresentable

/-- The wording of a defect. Where a number cannot be read the reader's own words are left out. -/
def Defect.message : Defect → String
  | notSchema => "Expected: valid schema, given: Invalid JSON"
  | notObjectOrBoolean => "schema is invalid"
  | wrongType expected given => "Invalid type. Expected: " ++ expected ++ ", given: " ++ given
  | mustBeOfType key type => key ++ " must be of type " ++ type
  | mustBeA key thing => key.name ++ " must be of a " ++ thing
  | mustBeAn key thing => key.name ++ " must be of an " ++ thing
  | needs key other => key.name ++ " cannot be used without " ++ other.name
  | exceeds lesser greater => lesser.name ++ " cannot be greater than " ++ greater.name
  | negative key => key.name ++ " must be greater than or equal to 0"
  | notPositive key => key.name ++ " must be strictly greater than 0"
  | unknownType name =>
    "has a primitive type that is NOT VALID -- given: /" ++ name ++
      "/ Expected valid values are:[" ++ Text.joined " " (Kind.all.map Kind.name) ++ "]"
  | repeatedType name => name ++ " type is duplicated"
  | repeatedItem key => key.name ++ " items must be unique"
  | itemsMustBe key type => key.name ++ " items must be " ++ type
  | badPattern key => key.name ++ " must be a valid regex"
  | badNamePattern source => "Invalid regex pattern '" ++ source ++ "'"
  | uri fault => fault.message
  | pointer fault => fault.message
  | notAbsolute reference => "Reference " ++ reference ++ " must be canonical"
  | outOfReach reference => "Reference " ++ reference ++ " cannot be read"
  | unreadableNumber => "<cause>"
  | unrepresentable => ""

end SchemaKit.Validation
