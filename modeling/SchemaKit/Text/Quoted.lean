import SchemaKit.Text.Hex
import SchemaKit.Text.Printable
import SchemaKit.Text.Utf8

/-!
# Quoted texts in messages

Messages show a text between double quotes, on one line and without ambiguity: printable characters
stand for themselves, everything else is escaped.

## Main definitions

* `quote` — the quoted form of a text.
-/

namespace SchemaKit.Text

/-- The letter that names a control character after a backslash. -/
def controlLetter? (c : Char) : Option Char :=
  match c.toNat with
  | 7 => some 'a'
  | 8 => some 'b'
  | 9 => some 't'
  | 10 => some 'n'
  | 11 => some 'v'
  | 12 => some 'f'
  | 13 => some 'r'
  | _ => none

/-- A character inside quotes. Control characters have a letter or two hexadecimal digits, other
characters that are not printable four or eight. -/
def quoteChar (c : Char) : List Char :=
  if c = '"' || c = '\\' then ['\\', c]
  else if isPrintable c then [c]
  else match controlLetter? c with
    | some l => ['\\', l]
    | none =>
      if c.toNat < 32 || c.toNat = 127 then '\\' :: 'x' :: hex 2 c.toNat
      else if c.toNat < 65536 then '\\' :: 'u' :: hex 4 c.toNat
      else '\\' :: 'U' :: hex 8 c.toNat

/-- A piece inside quotes. A stray byte shows its value. -/
def Piece.quoted : Piece → List Char
  | .char c => quoteChar c
  | .stray b => '\\' :: 'x' :: hex 2 b.toNat

/-- The quoted form of a sequence of pieces. -/
def quotePieces (ps : List Piece) : String :=
  String.ofList ('"' :: ps.flatMap Piece.quoted ++ ['"'])

/-- The quoted form of a text. -/
def quote (s : String) : String := quotePieces (piecesOf s)

end SchemaKit.Text
