/-!
# Binary floating point

A positive number is approximated by `mantissa · 2 ^ exponent` with a bounded number of mantissa
bits. Quotients are rounded to the nearest such number, ties to the even mantissa.

## Main definitions

* `Binary` — the number `mantissa · 2 ^ exponent`.
* `Precision` — number of bits, and the least exponent if there is one.
* `Precision.round` — the nearest representable number to a quotient.
* `double` — 53 bits with exponents from `-1074` on.
-/

namespace SchemaKit.Decimal

/-- The number `mantissa · 2 ^ exponent`. -/
structure Binary where
  mantissa : Nat
  exponent : Int
  deriving DecidableEq, Repr

/-- How many bits a mantissa has, and the least exponent, if any. -/
structure Precision where
  bits : Nat
  least : Option Int
  deriving DecidableEq, Repr

/-- A fraction scaled by a power of two: `num · 2 ^ shift / den`. -/
def scaled (num den : Nat) (shift : Int) : Nat × Nat :=
  if 0 ≤ shift then (num * Nat.pow 2 shift.toNat, den) else (num, den * Nat.pow 2 (-shift).toNat)

/-- The quotient rounded to the nearest integer, a half to the even neighbour. -/
def roundDiv (num den : Nat) : Nat :=
  let q := num / den
  let r := num % den
  if 2 * r < den then q
  else if den < 2 * r then q + 1
  else if q % 2 = 0 then q else q + 1

/-- The integer part of the binary logarithm of a positive fraction. -/
def logFloor (num den : Nat) : Int :=
  let k : Int := (Nat.log2 num : Int) - (Nat.log2 den : Int)
  let (n, d) := scaled num den (-k)
  if d ≤ n then k else k - 1

/-- The representable number nearest to `num / den`, for positive `num` and `den`. -/
def Precision.round (p : Precision) (num den : Nat) : Binary :=
  let e := logFloor num den - ((p.bits : Int) - 1)
  let e := match p.least with
    | some m => max e m
    | none => e
  let (n, d) := scaled num den (-e)
  let m := roundDiv n d
  if m = Nat.pow 2 p.bits then ⟨Nat.pow 2 (p.bits - 1), e + 1⟩ else ⟨m, e⟩

/-- Double precision. -/
def double : Precision := ⟨53, some (-1074)⟩

/-- Numbers from `2 ^ 1024` on are out of the range of doubles. -/
def Binary.isInfinite (b : Binary) : Bool :=
  decide (1024 < (Nat.log2 b.mantissa : Int) + 1 + b.exponent)

/-- The integer that a number stands for, if it is one. -/
def Binary.toNat? (b : Binary) : Option Nat :=
  if 0 ≤ b.exponent then some (b.mantissa * Nat.pow 2 b.exponent.toNat)
  else
    let d := Nat.pow 2 (-b.exponent).toNat
    if b.mantissa % d = 0 then some (b.mantissa / d) else none

end SchemaKit.Decimal
