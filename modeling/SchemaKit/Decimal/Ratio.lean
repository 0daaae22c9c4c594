import SchemaKit.Decimal.Shortest

/-!
# Exact fractions

Bounds and divisors are exact fractions. They are compared by cross multiplication, and shown in a
precision that is large enough for both parts, with the fewest digits.

## Main definitions

* `Ratio` — a fraction with a positive denominator.
* `Ratio.lt`, `Ratio.isMultipleOf` — comparison and divisibility.
* `Ratio.text` — the text that messages show.
-/

namespace SchemaKit.Decimal

/-- The fraction `num / den`. -/
structure Ratio where
  num : Int
  den : Nat
  deriving DecidableEq, Repr

namespace Ratio

/-- Less than. -/
def lt (a b : Ratio) : Bool := a.num * b.den < b.num * a.den

/-- Whether a fraction is an integer multiple of a positive one. -/
def isMultipleOf (a b : Ratio) : Bool := (a.num * b.den) % (a.den * b.num) == 0

/-- The number of bits of a natural number. -/
def bitLength (n : Nat) : Nat := if n = 0 then 0 else Nat.log2 n + 1

/-- Bounds have an exponent from a million on and below a ten-thousandth. -/
def layout : Layout := ⟨-4, 6, 2⟩

/-- A fraction as text. The precision is that of the larger part in lowest terms, at least 64
bits. -/
def text (r : Ratio) : String :=
  if r.num = 0 then "0"
  else
    let g := Nat.gcd r.num.natAbs r.den
    let n := r.num.natAbs / g
    let d := r.den / g
    let precision : Precision := ⟨max 64 (max (bitLength n) (bitLength d)), none⟩
    let digits := ((precision.round n d).interval precision true).shortest
    String.ofList ((if r.num < 0 then ['-'] else []) ++ layout.write digits)

end Ratio

end SchemaKit.Decimal
