import SchemaKit.Decimal.Binary
import SchemaKit.Decimal.Digits

/-!
# Shortest decimal digits

A binary number is written with the fewest decimal digits that still lie within its rounding
interval, the set of numbers for which it is the nearest representable one. Of two candidates with
equally many digits the nearer one is taken.

## Main definitions

* `Interval` — a number with its rounding interval, over a common denominator.
* `Interval.shortest` — the fewest digits and the power of ten of the last digit.
* `Layout` — where positional notation ends and how an exponent is written.
* `Layout.write` — digits laid out as text.
-/

namespace SchemaKit.Decimal

/-- The numbers between `low / den` and `high / den` round to `mid / den`; the two ends do so iff
`closed`. -/
structure Interval where
  low : Nat
  mid : Nat
  high : Nat
  den : Nat
  closed : Bool
  deriving Repr

/-- The rounding interval of a binary number. Below a power of two the numbers lie twice as dense,
so there the interval is shorter, unless `even` spacing is asked for. -/
def Binary.interval (b : Binary) (p : Precision) (even : Bool) : Interval :=
  let dense := !even && b.mantissa == Nat.pow 2 (p.bits - 1) && p.least != some b.exponent
  let scale (n : Nat) : Nat := if 0 ≤ b.exponent then n * Nat.pow 2 b.exponent.toNat else n
  { low := scale (4 * b.mantissa - if dense then 1 else 2)
    mid := scale (4 * b.mantissa)
    high := scale (4 * b.mantissa + 2)
    den := if 0 ≤ b.exponent then 4 else 4 * Nat.pow 2 (-b.exponent).toNat
    closed := b.mantissa % 2 == 0 }

/-- Decimal digits `digits` with the decimal point `point` places after their start. -/
structure Figures where
  digits : List Char
  point : Int
  deriving DecidableEq, Repr

/-- Whether `digits · 10 ^ power` rounds to the number. -/
def Interval.has (i : Interval) (digits : Nat) (power : Int) : Bool :=
  let (n, d) := if 0 ≤ power then (digits * Nat.pow 10 power.toNat * i.den, 1)
    else (digits * i.den, Nat.pow 10 (-power).toNat)
  if i.closed then i.low * d ≤ n && n ≤ i.high * d else i.low * d < n && n < i.high * d

/-- The number divided by `10 ^ power`, as a fraction. -/
def Interval.atPower (i : Interval) (power : Int) : Nat × Nat :=
  if 0 ≤ power then (i.mid, i.den * Nat.pow 10 power.toNat)
  else (i.mid * Nat.pow 10 (-power).toNat, i.den)

/-- The grid of multiples of `10 ^ power` is tried, then finer ones, until a neighbour of the
number lies in the interval. -/
def Interval.search (i : Interval) : (fuel : Nat) → (power : Int) → Nat × Int
  | 0, power => let (n, d) := i.atPower power; (n / d, power)
  | fuel + 1, power =>
    let (n, d) := i.atPower power
    let down := n / d
    match 0 < down && i.has down power, i.has (down + 1) power with
    | true, true => (roundDiv n d, power)
    | true, false => (down, power)
    | false, true => (down + 1, power)
    | false, false => i.search fuel (power - 1)

/-- The power of ten of the first digit: the search goes up from `k` while the number is larger. -/
def Interval.leading (i : Interval) : (fuel : Nat) → (k : Int) → Int
  | 0, k => k
  | fuel + 1, k =>
    let (n, d) := i.atPower (k + 1)
    if d ≤ n then i.leading fuel (k + 1) else k

/-- A lower bound for the power of ten of the first digit. -/
def Interval.start (i : Interval) : Int :=
  let bits : Int := logFloor i.mid i.den
  if 0 ≤ bits then bits * 30 / 100 - 1 else bits * 31 / 100 - 1

/-- Drops the zeros at the end of a number and counts them into the power of ten. -/
def trimZeros : (fuel : Nat) → Nat → Int → Nat × Int
  | 0, n, power => (n, power)
  | fuel + 1, n, power =>
    if n ≠ 0 ∧ n % 10 = 0 then trimZeros fuel (n / 10) (power + 1) else (n, power)

/-- The fewest digits that round to the number, for a positive number. -/
def Interval.shortest (i : Interval) : Figures :=
  let width := Nat.log2 i.mid + Nat.log2 i.den + 4
  let first := i.leading width i.start
  let (n, power) := i.search width first
  let (n, power) := trimZeros (Nat.log2 n + 1) n power
  let ds := ofNat n
  ⟨ds, ds.length + power⟩

/-! ## Layout -/

/-- Numbers `d.ddd · 10 ^ e` with `positionalFrom ≤ e < positionalBelow` are written without an
exponent; an exponent has at least `exponentWidth` digits. -/
structure Layout where
  positionalFrom : Int
  positionalBelow : Int
  exponentWidth : Nat
  deriving Repr

/-- Digits padded with zeros on the left. -/
def padLeft (width : Nat) (ds : List Char) : List Char :=
  List.replicate (width - ds.length) '0' ++ ds

/-- Whether the layout writes these digits without an exponent. -/
def Layout.isPositional (l : Layout) (f : Figures) : Bool :=
  l.positionalFrom ≤ f.point - 1 && f.point - 1 < l.positionalBelow

/-- The digits before the decimal point, in positional notation. -/
def Figures.whole (f : Figures) : List Char :=
  if f.point ≤ 0 then ['0']
  else f.digits.take f.point.toNat ++ List.replicate (f.point.toNat - f.digits.length) '0'

/-- The digits after the decimal point, in positional notation. -/
def Figures.part (f : Figures) : List Char :=
  if f.point ≤ 0 then List.replicate (-f.point).toNat '0' ++ f.digits
  else f.digits.drop f.point.toNat

/-- The digits of the exponent, without its sign. -/
def Layout.exponentDigits (l : Layout) (e : Int) : List Char :=
  padLeft l.exponentWidth (ofNat e.natAbs)

/-- Digits laid out as text. -/
def Layout.write (l : Layout) (f : Figures) : List Char :=
  if l.isPositional f then
    f.whole ++ (if f.part.isEmpty then [] else '.' :: f.part)
  else
    let e := f.point - 1
    f.digits.take 1 ++ (if f.digits.length ≤ 1 then [] else '.' :: f.digits.drop 1) ++
      'e' :: (if e < 0 then '-' else '+') :: l.exponentDigits e

end SchemaKit.Decimal
