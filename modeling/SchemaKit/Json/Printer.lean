import SchemaKit.Json.Basic
import SchemaKit.Text.Quoted

/-!
# Writing JSON

Values are written compactly, or indented by two spaces a level. Strings escape what could be
mistaken in a web page (`<`, `>`, `&`) or for a line end (`U+2028`, `U+2029`), quotes, backslashes
and control characters.

## Main definitions

* `escape` — a character inside a JSON string.
* `compact` — a value without blanks.
* `indented` — a value over several lines.
-/

namespace SchemaKit.Json

open Text (hex)

/-! ## Strings -/

/-- The letter that follows the backslash in a short escape. -/
def shortEscape? (c : Char) : Option Char :=
  match c with
  | '"' => some '"'
  | '\\' => some '\\'
  | '\x08' => some 'b'
  | '\x0c' => some 'f'
  | '\n' => some 'n'
  | '\r' => some 'r'
  | '\t' => some 't'
  | _ => none

/-- Characters that are written with four hexadecimal digits. -/
def isHexEscaped (c : Char) : Bool :=
  c.toNat < 32 || c == '<' || c == '>' || c == '&' || c == '\u2028' || c == '\u2029'

/-- A character inside a JSON string. -/
def escape (c : Char) : List Char :=
  match shortEscape? c with
  | some l => ['\\', l]
  | none => if isHexEscaped c then '\\' :: 'u' :: hex 4 c.toNat else [c]

/-- The escaped characters of a string in front of `tail`. -/
def escaped : List Char → List Char → List Char
  | [], tail => tail
  | c :: rest, tail => escape c ++ escaped rest tail

/-- A quoted JSON string in front of `tail`. -/
def quoted (s : String) (tail : List Char) : List Char :=
  '"' :: escaped s.toList ('"' :: tail)

/-! ## Compact form -/

mutual

/-- A value in compact form in front of `tail`. -/
def compactOn : Json → List Char → List Char
  | .null, tail => 'n' :: 'u' :: 'l' :: 'l' :: tail
  | .bool true, tail => 't' :: 'r' :: 'u' :: 'e' :: tail
  | .bool false, tail => 'f' :: 'a' :: 'l' :: 's' :: 'e' :: tail
  | .num n, tail => n.chars ++ tail
  | .str s, tail => quoted s tail
  | .arr items, tail => '[' :: compactItems items false (']' :: tail)
  | .obj members, tail => '\x7b' :: compactMembers members false ('\x7d' :: tail)

/-- Items divided by commas; `more` asks for a comma before the first one. -/
def compactItems : List Json → (more : Bool) → List Char → List Char
  | [], _, tail => tail
  | v :: rest, more, tail =>
    let body := compactOn v (compactItems rest true tail)
    if more then ',' :: body else body

/-- Members divided by commas; `more` asks for a comma before the first one. -/
def compactMembers : List (String × Json) → (more : Bool) → List Char → List Char
  | [], _, tail => tail
  | (k, v) :: rest, more, tail =>
    let body := quoted k (':' :: compactOn v (compactMembers rest true tail))
    if more then ',' :: body else body

end

/-- A value without blanks. -/
def compact (v : Json) : String := String.ofList (compactOn v [])

/-! ## Indented form -/

/-- A line end and the indentation of a level, in front of `tail`. -/
def newline (level : Nat) (tail : List Char) : List Char :=
  '\n' :: (List.replicate (2 * level) ' ' ++ tail)

mutual

/-- A value in indented form in front of `tail`, inside `level` containers. -/
def indentedOn : Json → (level : Nat) → List Char → List Char
  | .arr [], _, tail => '[' :: ']' :: tail
  | .arr (v :: rest), level, tail =>
    '[' :: newline (level + 1) (indentedOn v (level + 1)
      (indentedItems rest level (newline level (']' :: tail))))
  | .obj [], _, tail => '\x7b' :: '\x7d' :: tail
  | .obj ((k, v) :: rest), level, tail =>
    '\x7b' :: newline (level + 1) (quoted k (':' :: ' ' :: indentedOn v (level + 1)
      (indentedMembers rest level (newline level ('\x7d' :: tail)))))
  | .null, _, tail => compactOn .null tail
  | .bool b, _, tail => compactOn (.bool b) tail
  | .num n, _, tail => compactOn (.num n) tail
  | .str s, _, tail => compactOn (.str s) tail

/-- Further items of an array, each on a line of its own. -/
def indentedItems : List Json → (level : Nat) → List Char → List Char
  | [], _, tail => tail
  | v :: rest, level, tail =>
    ',' :: newline (level + 1) (indentedOn v (level + 1) (indentedItems rest level tail))

/-- Further members of an object, each on a line of its own. -/
def indentedMembers : List (String × Json) → (level : Nat) → List Char → List Char
  | [], _, tail => tail
  | (k, v) :: rest, level, tail =>
    ',' :: newline (level + 1) (quoted k (':' :: ' ' ::
      indentedOn v (level + 1) (indentedMembers rest level tail)))

end

/-- A value over several lines, two spaces a level. -/
def indented (v : Json) : String := String.ofList (indentedOn v 0 [])

end SchemaKit.Json
