import SchemaKit.Json.Writable
import SchemaKit.Text.Hex

/-!
# Numbers outside of JSON

In a tag a number may be written in more ways than in JSON: with a plus sign, with digits on one side of
the point only, with zeros in front, with underscores between digits, in hexadecimal digits with a
binary exponent, and by name if it is not finite.

## Main definitions

* `integerOf?` — the integer that a text means, in the 64-bit range.
* `Numeral.ofText?` — the double that a text means, as a numeral.
-/

namespace SchemaKit.Json

open Decimal

/-- A text without the sign at its start, and whether that is a minus. -/
def withoutSign : List Char → Bool × List Char
  | '-' :: rest => (true, rest)
  | '+' :: rest => (false, rest)
  | s => (false, s)

/-- The integer that a text means: a sign, if there is one, and digits. -/
def integerOf? (s : String) : Option Int :=
  let (negative, digits) := withoutSign s.toList
  if isDigitRow digits then
    (some (if negative then -(value digits : Int) else value digits)).filter inInt64
  else none

/-- Whether every underscore stands between digits. The mark of a base counts as a digit. -/
def hasInnerUnderscores (isDigit : Char → Bool) : (isBehindDigit : Bool) → List Char → Bool
  | _, [] => true
  | isBehindDigit, c :: rest =>
    if c = '_' then
      isBehindDigit && rest.head?.any isDigit && hasInnerUnderscores isDigit false rest
    else hasInnerUnderscores isDigit (isDigit c) rest

/-- The digits before and behind the point, at least one of them, and what follows. -/
def mantissa? (isDigit : Char → Bool) (s : List Char) : Option (List Char × List Char × List Char) :=
  let whole := s.takeWhile isDigit
  let (fraction, rest) := match s.dropWhile isDigit with
    | '.' :: rest => (rest.takeWhile isDigit, rest.dropWhile isDigit)
    | rest => ([], rest)
  if whole.isEmpty && fraction.isEmpty then none else some (whole, fraction, rest)

/-- The exponent behind a letter. There may be none. -/
def exponent? (letter : Char) : List Char → Option (Option Exponent)
  | [] => some none
  | c :: rest =>
    let (negative, digits) := withoutSign rest
    if c.toLower = letter && isDigitRow digits then some (some ⟨false, some negative, digits⟩) else none

/-- The double of a number in decimal digits. -/
def decimalOf? (negative : Bool) (s : List Char) : Option Double := do
  let (whole, fraction, rest) ← mantissa? isDigit s
  let e ← exponent? 'e' rest
  Numeral.double? ⟨negative, whole, some fraction, e⟩

/-- The double of a number in hexadecimal digits, behind the mark of the base. The exponent counts
binary places and is always there. -/
def hexadecimalOf? (negative : Bool) (s : List Char) : Option Double := do
  let (whole, fraction, rest) ← mantissa? (fun c => (Text.hexValue? c).isSome) s
  let coefficient ← Text.digitsValue? 16 (whole ++ fraction)
  let e ← (← exponent? 'p' rest)
  let shift := Numeral.shift ⟨false, [], none, some e.curbed⟩ - 4 * fraction.length
  if coefficient = 0 then return ⟨negative, none⟩
  let (above, below) := scaled coefficient 1 shift
  let b := double.round above below
  if b.isInfinite then none
  else return ⟨negative, if b.mantissa = 0 then none else some b⟩

/-- The double that a text means, as a numeral. A text of a finite number that is out of range means
none, but the infinities can be named. -/
def Numeral.ofText? (s : String) : Option Numeral :=
  let (negative, body) := withoutSign s.toList
  let name := String.ofList (body.map Char.toLower)
  if name = "inf" || name = "infinity" then some (.infinite negative)
  else if String.ofList (s.toList.map Char.toLower) = "nan" then some .undefined
  else match body with
    | '0' :: 'x' :: rest | '0' :: 'X' :: rest =>
      if hasInnerUnderscores (fun c => (Text.hexValue? c).isSome) true rest then
        (hexadecimalOf? negative (rest.filter (· ≠ '_'))).map .ofDouble
      else none
    | _ =>
      if hasInnerUnderscores isDigit false body then
        (decimalOf? negative (body.filter (· ≠ '_'))).map .ofDouble
      else none

end SchemaKit.Json
