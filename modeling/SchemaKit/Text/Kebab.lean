import SchemaKit.Text.Letter

/-!
# Kebab case

Names in camel case or with separators are written in lower case with dashes between the words.
A run of capitals stays one word, and its last capital starts the next word if a lower-case letter
follows: `HTTPServer` becomes `http-server`.

## Main definitions

* `isSeparator` — the characters that a dash replaces.
* `startsWord` — whether a capital opens a new word, judged by its two neighbours.
* `kebab` — the conversion.
-/

namespace SchemaKit.Text

/-- Underscore and space separate words. -/
def isSeparator (c : Char) : Bool := c == '_' || c == ' '

/-- A capital that is not the first character opens a new word if the character before it is a
lower-case letter or a digit, or the one after it is a lower-case letter; not right after a
separator, which is already written as a dash. -/
def startsWord (before : Option Char) (c : Char) (after : Option Char) : Bool :=
  match before with
  | none => false
  | some p => isUpper c && (isLower p || isDigit p || after.any isLower) && !isSeparator p

/-- The conversion of what follows the character `before`. -/
def kebabAfter (before : Option Char) : List Char → List Char
  | [] => []
  | c :: rest =>
    if isSeparator c then '-' :: kebabAfter (some c) rest
    else if startsWord before c rest.head? then '-' :: toLower c :: kebabAfter (some c) rest
    else toLower c :: kebabAfter (some c) rest

/-- A name in kebab case. -/
def kebab (name : List Char) : List Char := kebabAfter none name

end SchemaKit.Text
