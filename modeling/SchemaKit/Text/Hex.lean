/-!
# Hexadecimal digits

## Main definitions

* `hexValue?` — the value of a digit.
* `digitsValue?` — the number that digits of a base up to sixteen denote.
* `hex` — a number in lower-case digits, padded to a width.
-/

namespace SchemaKit.Text

/-- The value of a hexadecimal digit. -/
def hexValue? (c : Char) : Option Nat :=
  if '0' ≤ c && c ≤ '9' then some (c.toNat - 48)
  else if 'a' ≤ c && c ≤ 'f' then some (c.toNat - 87)
  else if 'A' ≤ c && c ≤ 'F' then some (c.toNat - 55)
  else none

/-- The number that digits of a base denote. No digits denote zero. -/
def digitsValue? (base : Nat) (digits : List Char) : Option Nat :=
  let digit? (c : Char) : Option Nat := (hexValue? c).filter (· < base)
  digits.foldlM (fun n c => (digit? c).map (n * base + ·)) 0

/-- The hexadecimal digit of a number below sixteen. -/
def hexDigit (n : Nat) : Char :=
  if n < 10 then Char.ofNat (48 + n) else Char.ofNat (87 + n)

/-- The last `width` hexadecimal digits of a number. -/
def hex : (width : Nat) → Nat → List Char
  | 0, _ => []
  | width + 1, n => hex width (n / 16) ++ [hexDigit (n % 16)]

end SchemaKit.Text
