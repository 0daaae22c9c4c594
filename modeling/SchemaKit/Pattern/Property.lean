import SchemaKit.Pattern.Category
import SchemaKit.Pattern.Script
import SchemaKit.Text.Hex
import SchemaKit.Text.Letter
import SchemaKit.Text.Split

/-!
# Character properties in patterns

Patterns may name a property of characters: a general category, which has a name of two letters, the
categories that share their first letter, or a script.

## Main definitions

* `rowIntervals` — the intervals that a row of a table lists.
* `unionOf` — the characters of the categories that share a first letter.
* `propertyIntervals?` — the characters that have a named property.

## Design

* The classes "upper-case letter", "lower-case letter", "letter" and "decimal digit" have tables of
  progressions, which the rest of the library shares. All other categories and the scripts are rows of
  text, which are read where a pattern names them.
* Long names of categories, such as `Letter`, and categories of code points without a character are not
  properties: a pattern that names one is no pattern.
-/

namespace SchemaKit.Pattern

/-- The members of a table of progressions, as intervals. A progression without gaps is one interval, any
other is an interval for each of its members. -/
def intervalsOf (table : List Text.Run) : List (Nat × Nat) :=
  table.flatMap fun r =>
    if r.step = 1 then [(r.first, r.last)]
    else (List.range ((r.last - r.first) / r.step + 1)).map fun i =>
      (r.first + i * r.step, r.first + i * r.step)

/-- An interval of code points as a row writes it: its first and last code point with a dash between
them, or the only one that it has. -/
def interval? (piece : List Char) : Option (Nat × Nat) :=
  match Text.cut '-' piece with
  | some (first, last) => do
    return (← Text.digitsValue? 16 first, ← Text.digitsValue? 16 last)
  | none => (Text.digitsValue? 16 piece).map fun n => (n, n)

/-- The intervals that the lines of a row list, with a blank between two of them. -/
def rowIntervals (row : List String) : List (Nat × Nat) :=
  row.flatMap fun line => (Text.splitAll ' ' line.toList).filterMap interval?

example : rowIntervals ["AA BA", "1C0-1C3"] = [(170, 170), (186, 186), (448, 451)] := by decide

/-- The characters of the categories in `categoryTable` whose names start with a letter. -/
def unionOf (major : Char) : List (Nat × Nat) :=
  (categoryTable.filter fun entry => entry.1.toList.head? == some major).flatMap fun entry =>
    rowIntervals entry.2

/-- The characters that have a named property. Numbers are the decimal digits together with the other
two categories of numbers, and the letters have a table of their own. -/
def propertyIntervals? (name : String) : Option (List (Nat × Nat)) :=
  match name with
  | "Any" => some [(0, 1114111)]
  | "L" => some (intervalsOf Text.letterTable)
  | "Lu" => some (intervalsOf Text.upperTable)
  | "Ll" => some (intervalsOf Text.lowerTable)
  | "Nd" => some (intervalsOf Text.digitTable)
  | "N" => some (intervalsOf Text.digitTable ++ unionOf 'N')
  | "C" => some (unionOf 'C')
  | "M" => some (unionOf 'M')
  | "P" => some (unionOf 'P')
  | "S" => some (unionOf 'S')
  | "Z" => some (unionOf 'Z')
  | _ => ((categoryTable ++ scriptTable).lookup name).map rowIntervals

end SchemaKit.Pattern
