import SchemaKit.Shape.Tag
import SchemaKit.Text.Letter

/-!
# Shapes

A shape says how data is laid out in a program: a primitive, a record with named fields, a list, a
map, something behind a pointer. It is what a schema is compared with, and what a schema can be
derived from.

## Main definitions

* `Primitive` — shapes without parts.
* `Shape` — all shapes.
* `Waiver` — what a shape says about whether it is to be compared with schemas at all.
* `Shape.kind` — the name of a shape in messages.
* `Label.member?` — the member of a document that a field is written to.

## Design

Records speak for themselves. Primitives, lists and maps say something only if they have a name of their
own, which `Shape.named` adds to them; otherwise a named shape is like the shape that it names.
-/

namespace SchemaKit

/-- A shape without parts. -/
inductive Primitive where
  | bool
  | int
  | int8
  | int16
  | int32
  | int64
  | uint
  | uint8
  | uint16
  | uint32
  | uint64
  | uintptr
  | float32
  | float64
  | complex128
  | string
  | func
  | chan
  deriving DecidableEq, Repr

namespace Primitive

/-- All primitives with their names. -/
def table : List (Primitive × String) :=
  [(bool, "bool"), (int, "int"), (int8, "int8"), (int16, "int16"), (int32, "int32"),
    (int64, "int64"), (uint, "uint"), (uint8, "uint8"), (uint16, "uint16"), (uint32, "uint32"),
    (uint64, "uint64"), (uintptr, "uintptr"), (float32, "float32"), (float64, "float64"),
    (complex128, "complex128"), (string, "string"), (func, "func"), (chan, "chan")]

/-- The name of a primitive. -/
def name (p : Primitive) : String := ((table.find? (·.1 = p)).map (·.2)).getD ""

/-- The primitive with this name. -/
def ofName? (name : String) : Option Primitive := (table.find? (·.2 == name)).map (·.1)

/-- Integers that cannot be negative. An address is not one of them. -/
def isUnsigned : Primitive → Bool
  | uint | uint8 | uint16 | uint32 | uint64 => true
  | _ => false

/-- Integers. An address is not one of them. -/
def isInteger : Primitive → Bool
  | int | int8 | int16 | int32 | int64 => true
  | p => p.isUnsigned

/-- Floating-point numbers. -/
def isFloat : Primitive → Bool
  | float32 | float64 => true
  | _ => false

end Primitive

/-- What a shape says about whether it is to be passed over when shapes are compared with schemas:
nothing, something about each of its values, or that those of its values are passed over that have an
address. -/
inductive Waiver where
  | none
  | value (waived : Bool)
  | addressed
  deriving DecidableEq, Repr

/-- A field's name and tag. -/
structure Label where
  name : String
  tag : String
  deriving DecidableEq, Repr

/-- A shape. -/
inductive Shape where
  | primitive (p : Primitive)
  | anything
  | raw
  | time
  | role
  | pointer (elem : Shape) (isSet : Bool)
  | slice (elem : Shape)
  | array (elem : Shape)
  | map (elem : Shape)
  | record (waiver : Waiver) (fields : List (Label × Shape))
  | named (waiver : Waiver) (base : Shape)

namespace Shape

instance : Inhabited Shape := ⟨.anything⟩

/-- The name of a shape in messages. -/
def kind : Shape → String
  | primitive p => p.name
  | anything => "interface"
  | raw | slice _ => "slice"
  | time | record _ _ => "struct"
  | role => Primitive.string.name
  | pointer _ _ => "ptr"
  | array _ => "array"
  | map _ => "map"
  | named _ base => base.kind

/-- What a shape says about whether it is to be passed over. -/
def waiver : Shape → Waiver
  | record waiver _ | named waiver _ => waiver
  | _ => .none

/-- Whether a shape is a byte, under whatever name. -/
def isByte : Shape → Bool
  | primitive .uint8 => true
  | named _ base => base.isByte
  | _ => false

/-- Whether a shape is a row of bytes. -/
def isBytes : Shape → Bool
  | slice elem | array elem => elem.isByte
  | _ => false

/-- Whether a shape is that of integers. -/
def isInteger : Shape → Bool
  | primitive p => p.isInteger
  | _ => false

/-- Whether a shape is that of numbers. -/
def isNumber : Shape → Bool
  | primitive p => p.isInteger || p.isFloat
  | _ => false

/-- Whether a shape is written as a text. -/
def isText : Shape → Bool
  | primitive .string | role | time => true
  | s => s.isBytes

end Shape

/-! ## Fields -/

/-- Where a field is written to: the name of the member, and whether it is left out when it is
empty. -/
structure Member where
  name : String
  omitted : Bool
  deriving DecidableEq, Repr

namespace Label

/-- Whether a field can be seen from outside: its name starts with an upper-case letter. -/
def isExported (l : Label) : Bool :=
  match l.name.toList with
  | c :: _ => Text.isUpper c
  | [] => false

/-- The member that a field is written to. Hidden fields and those tagged `-` are not written; a tag
without a name leaves the name of the field. -/
def member? (l : Label) : Option Member :=
  let value := (Shape.Tag.lookup? "json" l.tag).getD ""
  if !l.isExported || value = "-" then none
  else
    let (name, options) := Shape.Tag.splitName value
    some ⟨if name = "" then l.name else name, options.contains "omitempty"⟩

end Label

/-! ## The shapes of this library's records -/

namespace Shape

/-- Users: an id, a name, and an address that may be missing. -/
def user : Shape :=
  .record .none
    [(⟨"ID", "json:\"id\""⟩, .primitive .int), (⟨"Name", "json:\"name\""⟩, .primitive .string),
      (⟨"Email", "json:\"email,omitempty\""⟩, .pointer (.primitive .string) false)]

/-- Users by id. -/
def userIndex : Shape := .map user

end Shape

end SchemaKit
