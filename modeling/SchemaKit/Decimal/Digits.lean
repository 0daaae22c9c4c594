/-!
# Decimal digits

Numbers as sequences of decimal digits, written as characters.

## Main definitions

* `ofNat` — the digits of a natural number, without leading zeros.
* `value` — the natural number that a sequence of digits denotes.
* `ofInt` — an integer with a minus sign if it is negative.
-/

namespace SchemaKit.Decimal

/-- The character of a digit below ten. -/
def digitChar (n : Nat) : Char := Char.ofNat (48 + n)

/-- The value of a digit character. -/
def digitValue (c : Char) : Nat := c.toNat - 48

/-- Digits of `n` in front of `acc`, with `fuel` at least the number of digits. -/
def digitsAcc : (fuel : Nat) → Nat → List Char → List Char
  | 0, _, acc => acc
  | fuel + 1, n, acc =>
    if n < 10 then digitChar n :: acc
    else digitsAcc fuel (n / 10) (digitChar (n % 10) :: acc)

/-- The decimal digits of a natural number. -/
def ofNat (n : Nat) : List Char := digitsAcc (Nat.log2 n + 1) n []

/-- The number that a sequence of digits denotes. -/
def value (digits : List Char) : Nat :=
  digits.foldl (fun n c => 10 * n + digitValue c) 0

/-- An integer in decimal. -/
def ofInt : Int → List Char
  | .ofNat n => ofNat n
  | .negSucc n => '-' :: ofNat (n + 1)

/-- A natural number as text. -/
def text (n : Nat) : String := String.ofList (ofNat n)

/-- An integer as text. -/
def intText (i : Int) : String := String.ofList (ofInt i)

end SchemaKit.Decimal
