import SchemaKit.Proofs.Json.Numeral
import SchemaKit.Shape.Basic

/-!
# How data of a shape is written

A shape has data: truth values, integers in a range, floating-point numbers, texts, pointers that lead
somewhere or nowhere, and records with data for every field. Data is written as a JSON value; fields
may be left out when they are empty. Other shapes have no data here.

## Main definitions

* `SchemaKit.Shape.Datum` — the data of a shape.
* `SchemaKit.Shape.isZero`, `SchemaKit.Shape.isEmpty` — data that fields may be left out for.
* `SchemaKit.Label.written?` — the member that a field is written to.
* `SchemaKit.Shape.write` — data as a JSON value.
* `SchemaKit.Shape.Plain` — shapes of primitives, pointers and records, and such shapes with a name.
* `SchemaKit.Shape.WellTagged` — tags that mean to the writer what they say.

## Main results

* `SchemaKit.Shape.exists_isZero` — plain shapes have zero data.

## Design

The data of a shape is a type, so that data always has the shape it is written by. A floating-point
number is known by the literal that it is written as.
-/

namespace SchemaKit

/-! ## Primitives -/

namespace Primitive

/-- The least and the largest of the integers that a primitive can hold. -/
def bounds? : Primitive → Option (Int × Int)
  | .int8 => some (-2 ^ 7, 2 ^ 7 - 1)
  | .int16 => some (-2 ^ 15, 2 ^ 15 - 1)
  | .int32 => some (-2 ^ 31, 2 ^ 31 - 1)
  | .int | .int64 => some (-2 ^ 63, 2 ^ 63 - 1)
  | .uint8 => some (0, 2 ^ 8 - 1)
  | .uint16 => some (0, 2 ^ 16 - 1)
  | .uint32 => some (0, 2 ^ 32 - 1)
  | .uint | .uint64 | .uintptr => some (0, 2 ^ 64 - 1)
  | .bool | .float32 | .float64 | .complex128 | .string | .func | .chan => none

/-- The integers of a primitive. -/
def Integers (p : Primitive) : Type := { i : Int // ∃ b, p.bounds? = some b ∧ b.1 ≤ i ∧ i ≤ b.2 }

/-- The data of a primitive. Complex numbers, functions and channels cannot be written. -/
def Datum : Primitive → Type
  | .bool => Bool
  | .string => String
  | .float32 | .float64 => { n : Json.Numeral // n.WellFormed }
  | .complex128 | .func | .chan => Empty
  | p => p.Integers

/-- The data of a primitive as a JSON value. -/
def write : (p : Primitive) → p.Datum → Json
  | .bool, b => .bool b
  | .string, s => .str s
  | .float32, n | .float64, n => .num n.1
  | .int, i | .int8, i | .int16, i | .int32, i | .int64, i | .uint, i | .uint8, i | .uint16, i
  | .uint32, i | .uint64, i | .uintptr, i => .int i.1

/-- Whether data of a primitive is false, zero or the empty text. Negative zero is not zero. -/
def isZero : (p : Primitive) → p.Datum → Bool
  | .bool, b => !b
  | .string, s => String.isEmpty s
  | .float32, n | .float64, n => n.1 = .ofInt 0
  | .int, i | .int8, i | .int16, i | .int32, i | .int64, i | .uint, i | .uint8, i | .uint16, i
  | .uint32, i | .uint64, i | .uintptr, i => i.1 = 0

/-- Whether data of a primitive can be written. -/
def isWritten : Primitive → Bool
  | .complex128 | .func | .chan => false
  | _ => true

/-- Primitives that can be written have zero data. -/
lemma exists_isZero {p : Primitive} (h : p.isWritten = true) : ∃ d, p.isZero d = true := by
  cases p with
  | bool => exact ⟨false, rfl⟩
  | string => exact ⟨"", rfl⟩
  | float32 | float64 => exact ⟨⟨.ofInt 0, Json.Numeral.wellFormed_ofInt 0⟩, rfl⟩
  | int | int8 | int16 | int32 | int64 | uint | uint8 | uint16 | uint32 | uint64 | uintptr =>
    exact ⟨⟨0, _, rfl, by decide, by decide⟩, rfl⟩
  | complex128 | func | chan => cases h

end Primitive

/-! ## Fields -/

namespace Label

/-- The marks that may stand in the name that a tag gives, beside letters and digits. -/
def nameMarks : List Char := "!#$%&()*+-./:;<=>?@[]^_\x7b|\x7d~ ".toList

/-- Whether the writer takes a name from a tag. -/
def isTagName (name : String) : Bool :=
  name != "" && name.toList.all fun c => nameMarks.contains c || Text.isLetter c || Text.isDigit c

/-- The options of a tag. -/
def options (l : Label) : List String :=
  (Shape.Tag.splitName ((Shape.Tag.lookup? "json" l.tag).getD "")).2

/-- The member that a field is written to. A name that the writer does not take leaves the name of the
field. -/
def written? (l : Label) : Option Member :=
  l.member?.map fun m => if isTagName m.name then m else { m with name := l.name }

end Label

namespace Shape

/-! ## Data -/

mutual

/-- The data of a shape. -/
def Datum : Shape → Type
  | .primitive p => p.Datum
  | .pointer elem _ => Option elem.Datum
  | .record _ fields => FieldsDatum fields
  | .named _ base => base.Datum
  | .anything | .raw | .time | .role | .slice _ | .array _ | .map _ => Empty

/-- The data of fields. -/
def FieldsDatum : List (Label × Shape) → Type
  | [] => Unit
  | (_, s) :: rest => s.Datum × FieldsDatum rest

end

mutual

/-- Whether data is zero: a record if all its fields are. -/
def isZero : (s : Shape) → s.Datum → Bool
  | .primitive p, d => p.isZero d
  | .pointer _ _, d => d.isNone
  | .record _ fields, ds => areZero fields ds
  | .named _ base, d => isZero base d

/-- Whether the data of all fields is zero. -/
def areZero : (fields : List (Label × Shape)) → FieldsDatum fields → Bool
  | [], _ => true
  | (_, s) :: rest, (d, ds) => isZero s d && areZero rest ds

end

/-- Whether data is empty. A record never is. -/
def isEmpty : (s : Shape) → s.Datum → Bool
  | .record _ _, _ => false
  | .named _ base, d => isEmpty base d
  | .primitive p, d => isZero (.primitive p) d
  | .pointer elem isSet, d => isZero (.pointer elem isSet) d

/-- Whether a field is left out: an empty one that asks for it, or a zero one that asks for that. -/
def leftOut (l : Label) (m : Member) (s : Shape) (d : s.Datum) : Bool :=
  (m.omitted && isEmpty s d) || (l.options.contains "omitzero" && isZero s d)

mutual

/-- Data as a JSON value. -/
def write : (s : Shape) → s.Datum → Json
  | .primitive p, d => p.write d
  | .pointer _ _, none => .null
  | .pointer elem _, some d => write elem d
  | .record _ fields, ds => .obj (writeFields fields ds)
  | .named _ base, d => write base d

/-- The members that fields are written to. -/
def writeFields : (fields : List (Label × Shape)) → FieldsDatum fields → List (String × Json)
  | [], _ => []
  | (l, s) :: rest, (d, ds) =>
    match l.written? with
    | none => writeFields rest ds
    | some m =>
      if leftOut l m s d then writeFields rest ds else (m.name, write s d) :: writeFields rest ds

end

/-! ## Classes of shapes -/

mutual

/-- Shapes of primitives that can be written, pointers, and records, with or without a name. They do not ask
to be passed over; the fields of records can be seen from outside, are written to different members,
and are not written as texts. -/
def Plain : Shape → Prop
  | .primitive p => p.isWritten = true
  | .pointer elem _ => elem.Plain
  | .record waiver fields =>
    waiver = .none ∧ (fields.filterMap fun f => f.1.written?.map (·.name)).Nodup ∧
      plainFields fields
  | .named waiver base => waiver = .none ∧ base.Plain
  | .anything | .raw | .time | .role | .slice _ | .array _ | .map _ => False

/-- Field by field. -/
def plainFields : List (Label × Shape) → Prop
  | [] => True
  | (l, s) :: rest =>
    (l.isExported = true ∧ "string" ∉ l.options) ∧ s.Plain ∧ plainFields rest

end

mutual

/-- The writer takes every name from its tag, and no field asks to be left out when it is zero. -/
def WellTagged : Shape → Prop
  | .pointer elem _ => elem.WellTagged
  | .record _ fields => wellTaggedFields fields
  | .named _ base => base.WellTagged
  | _ => True

/-- Field by field. -/
def wellTaggedFields : List (Label × Shape) → Prop
  | [] => True
  | (l, s) :: rest =>
    (l.written? = l.member? ∧ "omitzero" ∉ l.options) ∧ s.WellTagged ∧ wellTaggedFields rest

end

mutual

/-- **Plain shapes have zero data.** -/
theorem exists_isZero : ∀ {s : Shape}, s.Plain → ∃ d, isZero s d = true
  | .primitive _, h => Primitive.exists_isZero h
  | .pointer _ _, _ => ⟨none, rfl⟩
  | .record _ _, h => exists_areZero h.2.2
  | .named _ base, h => exists_isZero (s := base) h.2

/-- Field by field. -/
theorem exists_areZero : ∀ {fields : List (Label × Shape)}, plainFields fields →
    ∃ ds, areZero fields ds = true
  | [], _ => ⟨(), rfl⟩
  | (l, s) :: rest, h => by
    obtain ⟨d, hd⟩ := exists_isZero h.2.1
    obtain ⟨ds, hds⟩ := exists_areZero h.2.2
    refine ⟨(d, ds), ?_⟩
    rw [areZero, hd, hds]
    rfl

end

/-- Whether a shape is that of records, which are never empty. -/
def isRecord : Shape → Bool
  | .record _ _ => true
  | .named _ base => base.isRecord
  | _ => false

/-- Records are never empty. -/
lemma isEmpty_of_isRecord : ∀ {s : Shape} (d : s.Datum), s.isRecord = true → isEmpty s d = false
  | .record _ _, _, _ => rfl
  | .named _ base, d, h => isEmpty_of_isRecord (s := base) d h
  | .primitive _, _, h | .pointer _ _, _, h => nomatch h

/-- Zero data is empty unless it is that of a record. -/
lemma isEmpty_eq : ∀ {s : Shape} {d : s.Datum}, isZero s d = true → isEmpty s d = !s.isRecord
  | .primitive _, _, h | .pointer _ _, _, h => h
  | .record _ _, _, _ => rfl
  | .named _ base, d, h => isEmpty_eq (s := base) (d := d) h

/-- In well-tagged shapes only empty fields are left out. -/
lemma leftOut_eq {l : Label} (h : "omitzero" ∉ l.options) (m : Member) (s : Shape) (d : s.Datum) :
    leftOut l m s d = (m.omitted && isEmpty s d) := by
  simp [leftOut, h]

end Shape

end SchemaKit
