import SchemaKit.Json.Printer

/-!
# Canonical values

Values are compared and written again in a canonical form: every number is the shortest literal of
its nearest double, and every object names its members once, in ascending order.

## Main definitions

* `round?` — every number replaced by the shortest literal of its double.
* `canonical?` — the canonical form, if every number is in the range of doubles.
* `canonicalText?` — its text.
-/

namespace SchemaKit.Json

mutual

/-- Every number becomes the shortest literal of its nearest double; none if one is out of range. -/
def round? : Json → Option Json
  | .num n => n.double?.map fun d => .num (.ofDouble d)
  | .arr items => (roundItems? items).map .arr
  | .obj members => (roundMembers? members).map .obj
  | v => some v

/-- Item by item. -/
def roundItems? : List Json → Option (List Json)
  | [] => some []
  | v :: rest =>
    match round? v, roundItems? rest with
    | some v, some rest => some (v :: rest)
    | _, _ => none

/-- Member by member. -/
def roundMembers? : List (String × Json) → Option (List (String × Json))
  | [] => some []
  | (k, v) :: rest =>
    match round? v, roundMembers? rest with
    | some v, some rest => some ((k, v) :: rest)
    | _, _ => none

end

/-- The canonical form of a value. A number out of range spoils it even in a member that a later
one of the same name replaces. -/
def canonical? (v : Json) : Option Json := (round? v).map settle

/-- The text of the canonical form. -/
def canonicalText? (v : Json) : Option String := (canonical? v).map compact

end SchemaKit.Json
