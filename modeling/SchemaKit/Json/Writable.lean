import SchemaKit.Json.Printer
import SchemaKit.Json.Reader

/-!
# Values that can be written

A program may hold numbers that no JSON literal stands for: the two infinities, and what is no number
at all. They are numerals whose parts make up no literal. A value is written only if all its numbers
are literals.

## Main definitions

* `Numeral.infinite`, `Numeral.undefined` — numbers without a literal.
* `Numeral.isLiteral` — whether the parts of a numeral make up a literal.
* `isWritable` — whether all numbers of a value are literals.
-/

namespace SchemaKit.Json

/-- The infinity of a sign. No literal stands for it. -/
def Numeral.infinite (negative : Bool) : Numeral := ⟨negative, ['I', 'n', 'f'], none, none⟩

/-- What is no number. No literal stands for it. -/
def Numeral.undefined : Numeral := ⟨false, ['N', 'a', 'N'], none, none⟩

/-- Whether characters are a sequence of at least one digit. -/
def isDigitRow (ds : List Char) : Bool := !ds.isEmpty && ds.all isDigit

/-- Whether characters may stand before the point of a literal: one zero, or digits of which the first
is not zero. -/
def isWholeRow (ds : List Char) : Bool := ds == ['0'] || (isDigitRow ds && ds.head? != some '0')

/-- Whether the parts of a numeral make up a number literal. Those of the numbers that are not finite
do not. -/
def Numeral.isLiteral (n : Numeral) : Bool :=
  isWholeRow n.whole && n.fraction.all isDigitRow && n.exponent.all fun e => isDigitRow e.digits

/-- Whether all numbers of a value are literals. -/
def isWritable : Json → Bool
  | .num n => n.isLiteral
  | .arr items => writableItems items
  | .obj members => writableMembers members
  | _ => true
where
  /-- Item by item. -/
  writableItems : List Json → Bool
    | [] => true
    | v :: rest => isWritable v && writableItems rest
  /-- Member by member. -/
  writableMembers : List (String × Json) → Bool
    | [] => true
    | (_, v) :: rest => isWritable v && writableMembers rest

end SchemaKit.Json
