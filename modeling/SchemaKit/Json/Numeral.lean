import SchemaKit.Decimal.Shortest

/-!
# Number literals

A JSON number is kept as it was written: sign, digits before and after the point, exponent. Its
exact value is a decimal fraction; where a program works with doubles, the literal is rounded to the
nearest double and written again with the fewest digits.

## Main definitions

* `Numeral` — a number literal.
* `Numeral.chars` — its text.
* `Numeral.coefficient`, `Numeral.power` — its value is `± coefficient · 10 ^ power`.
* `Numeral.int?` — the value of a literal without point and exponent.
* `Numeral.isInteger` — whether the exact value is an integer.
* `Numeral.nearest?` — the nearest double, if the literal is in range.
* `Numeral.double?` — the double that a literal is turned into.
* `Numeral.ofDouble` — the literal with the fewest digits for a double.
-/

namespace SchemaKit.Json

open Decimal

/-- The exponent of a number literal: `E` or `e`, an optional sign, digits. -/
structure Exponent where
  capital : Bool
  sign : Option Bool
  digits : List Char
  deriving DecidableEq, Repr

/-- A number literal. A `sign` that is present is `true` for a minus. -/
structure Numeral where
  negative : Bool
  whole : List Char
  fraction : Option (List Char)
  exponent : Option Exponent
  deriving DecidableEq, Repr

/-! ## Text -/

/-- The text of an exponent. -/
def Exponent.chars (e : Exponent) : List Char :=
  (if e.capital then 'E' else 'e') ::
    ((match e.sign with
      | none => []
      | some true => ['-']
      | some false => ['+']) ++ e.digits)

/-- The text of a number literal. -/
def Numeral.chars (n : Numeral) : List Char :=
  (if n.negative then ['-'] else []) ++ n.whole ++
    (match n.fraction with
      | none => []
      | some ds => '.' :: ds) ++
    (match n.exponent with
      | none => []
      | some e => e.chars)

/-- The text of a number literal. -/
def Numeral.text (n : Numeral) : String := String.ofList n.chars

/-- The literal of a natural number. -/
def Numeral.ofNat (n : Nat) : Numeral := ⟨false, Decimal.ofNat n, none, none⟩

/-- The literal of an integer. -/
def Numeral.ofInt (i : Int) : Numeral := ⟨i < 0, Decimal.ofNat i.natAbs, none, none⟩

/-! ## Exact value -/

/-- The exponent as an integer, zero if there is none. -/
def Numeral.shift (n : Numeral) : Int :=
  match n.exponent with
  | none => 0
  | some e => if e.sign = some true then -(value e.digits : Int) else value e.digits

/-- All digits of the literal, read as one natural number. -/
def Numeral.coefficient (n : Numeral) : Nat := value (n.whole ++ n.fraction.getD [])

/-- The power of ten by which the coefficient is scaled. -/
def Numeral.power (n : Numeral) : Int := n.shift - (n.fraction.getD []).length

/-- A literal without point and exponent denotes an integer directly. -/
def Numeral.int? (n : Numeral) : Option Int :=
  match n.fraction, n.exponent with
  | none, none => some (if n.negative then -(value n.whole : Int) else value n.whole)
  | _, _ => none

/-- The signed 64-bit range. -/
def inInt64 (i : Int) : Bool := -9223372036854775808 ≤ i && i ≤ 9223372036854775807

/-- The integer of a plain literal, if it fits into 64 bits. -/
def Numeral.int64? (n : Numeral) : Option Int := n.int?.filter inInt64

/-- Literals of a nonzero number scaled by more than a million places, and those whose exponent
leaves the 64-bit range, have no exact value here. -/
def Numeral.isExact (n : Numeral) : Bool :=
  (match n.exponent with
    | none => true
    | some e => decide (value e.digits < 9223372036854775808)) &&
    (n.coefficient == 0 || n.power.natAbs ≤ 1000000)

/-- The absolute value as a fraction `num / den`, not reduced. -/
def Numeral.ratio (n : Numeral) : Nat × Nat :=
  if n.coefficient = 0 then (0, 1)
  else if 0 ≤ n.power then (n.coefficient * Nat.pow 10 n.power.toNat, 1)
  else (n.coefficient, Nat.pow 10 (-n.power).toNat)

/-- The value as a fraction with signed numerator. -/
def Numeral.signed (n : Numeral) : Int × Nat :=
  let (a, d) := n.ratio
  (if n.negative then -(a : Int) else a, d)

/-- Whether the exact value is an integer. -/
def Numeral.isInteger (n : Numeral) : Bool :=
  n.isExact && (let (a, d) := n.ratio; a % d == 0)

/-! ## Doubles -/

/-- A double: sign, and magnitude unless it is zero. -/
structure Double where
  negative : Bool
  magnitude : Option Binary
  deriving DecidableEq, Repr

/-- The number of places the first digit of the value is left of the decimal point. -/
def Numeral.places (n : Numeral) : Int := (Decimal.ofNat n.coefficient).length + n.power

/-- The double nearest to the value of a literal, none if it is beyond the largest double. Values far
below the least double become zero. -/
def Numeral.nearest? (n : Numeral) : Option Double :=
  if n.coefficient = 0 then some ⟨n.negative, none⟩
  else if 400 < n.places then none
  else if n.places < -400 then some ⟨n.negative, none⟩
  else
    let (a, d) := n.ratio
    let b := double.round a d
    if b.isInfinite then none
    else if b.mantissa = 0 then some ⟨n.negative, none⟩
    else some ⟨n.negative, some b⟩

/-- Where a literal is turned into a double, no more than the first five digits of its exponent are
read, zeros in front aside. -/
def Exponent.curbed (e : Exponent) : Exponent :=
  if value e.digits < 100000 then e else ⟨e.capital, e.sign, (e.digits.dropWhile (· == '0')).take 5⟩

/-- The double that a literal is turned into: the nearest one, with the exponent curbed. -/
def Numeral.double? (n : Numeral) : Option Double :=
  Numeral.nearest? ⟨n.negative, n.whole, n.fraction, n.exponent.map Exponent.curbed⟩

/-- JSON numbers have no exponent from `1e-6` up to below `1e21`. -/
def jsonLayout : Layout := ⟨-6, 21, 1⟩

/-- The literal that a layout gives to digits. -/
def Numeral.ofFigures (l : Layout) (negative : Bool) (f : Figures) : Numeral :=
  if l.isPositional f then
    ⟨negative, f.whole, if f.part.isEmpty then none else some f.part, none⟩
  else
    ⟨negative, f.digits.take 1, if f.digits.length ≤ 1 then none else some (f.digits.drop 1),
      some ⟨false, some (f.point - 1 < 0), l.exponentDigits (f.point - 1)⟩⟩

/-- The literal of a double with the fewest digits. -/
def Numeral.ofDouble (d : Double) : Numeral :=
  match d.magnitude with
  | none => ⟨d.negative, ['0'], none, none⟩
  | some b => Numeral.ofFigures jsonLayout d.negative (b.interval double false).shortest

end SchemaKit.Json
