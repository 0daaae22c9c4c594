import SchemaKit.Json.Basic
import SchemaKit.Text.Letter

/-!
# Keys of schema documents

## Main definitions

* `Key` — the keys that have a meaning, in the order in which they are written.
* `Form` — what kind of value a key has.
* `Key.name`, `Key.form`, `Key.ofName?`.
-/

namespace SchemaKit.Schema

/-- A key of a schema document. -/
inductive Key where
  | id
  | schema
  | ref
  | comment
  | title
  | description
  | default
  | readOnly
  | writeOnly
  | deprecated
  | examples
  | multipleOf
  | maximum
  | exclusiveMaximum
  | minimum
  | exclusiveMinimum
  | maxLength
  | minLength
  | pattern
  | additionalItems
  | items
  | maxItems
  | minItems
  | uniqueItems
  | contains
  | maxProperties
  | minProperties
  | required
  | additionalProperties
  | definitions
  | properties
  | patternProperties
  | dependencies
  | propertyNames
  | const
  | enum
  | type
  | format
  | contentMediaType
  | contentEncoding
  | ifTrue
  | thenTrue
  | elseTrue
  | allOf
  | anyOf
  | oneOf
  | negation
  deriving DecidableEq, Repr

/-- What kind of value a key has: a text, a truth value, a number, a count, a count that is zero
unless it is given, a list of names, a kind of values, any value, a list of values, one schema,
schemas for items, a list of schemas, schemas by name, or dependencies by name. -/
inductive Form where
  | text
  | flag
  | number
  | count
  | floor
  | names
  | kinds
  | anything
  | values
  | one
  | items
  | list
  | named
  | dependent
  deriving DecidableEq, Repr

namespace Key

/-- All keys with their names and forms, in the order in which they are written. -/
def table : List (Key × String × Form) :=
  [(id, "$id", .text), (schema, "$schema", .text), (ref, "$ref", .text),
    (comment, "$comment", .text), (title, "title", .text), (description, "description", .text),
    (default, "default", .anything), (readOnly, "readOnly", .flag),
    (writeOnly, "writeOnly", .flag), (deprecated, "deprecated", .flag),
    (examples, "examples", .values), (multipleOf, "multipleOf", .number),
    (maximum, "maximum", .number), (exclusiveMaximum, "exclusiveMaximum", .number),
    (minimum, "minimum", .number), (exclusiveMinimum, "exclusiveMinimum", .number),
    (maxLength, "maxLength", .count), (minLength, "minLength", .floor),
    (pattern, "pattern", .text), (additionalItems, "additionalItems", .one),
    (items, "items", .items), (maxItems, "maxItems", .count), (minItems, "minItems", .floor),
    (uniqueItems, "uniqueItems", .flag), (contains, "contains", .one),
    (maxProperties, "maxProperties", .count), (minProperties, "minProperties", .floor),
    (required, "required", .names), (additionalProperties, "additionalProperties", .one),
    (definitions, "definitions", .named), (properties, "properties", .named),
    (patternProperties, "patternProperties", .named), (dependencies, "dependencies", .dependent),
    (propertyNames, "propertyNames", .one), (const, "const", .anything), (enum, "enum", .values),
    (type, "type", .kinds), (format, "format", .text),
    (contentMediaType, "contentMediaType", .text), (contentEncoding, "contentEncoding", .text),
    (ifTrue, "if", .one), (thenTrue, "then", .one), (elseTrue, "else", .one),
    (allOf, "allOf", .list), (anyOf, "anyOf", .list), (oneOf, "oneOf", .list),
    (negation, "not", .one)]

/-- The position of a key in the order of writing. -/
def rank (k : Key) : Nat := table.findIdx (·.1 = k)

/-- The name of a key. -/
def name (k : Key) : String := ((table.find? (·.1 = k)).map (·.2.1)).getD ""

/-- The form of a key's value. -/
def form (k : Key) : Form := ((table.find? (·.1 = k)).map (·.2.2)).getD .anything

/-- Whether a name is exactly that of a key. -/
def isName (name : String) : Bool := table.any (·.2.1 == name)

/-- The key that a name means up to case. -/
def ofName? (name : String) : Option Key :=
  (table.find? fun e => Text.equalFold e.2.1 name).map (·.1)

end Key

end SchemaKit.Schema
