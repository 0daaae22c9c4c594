import SchemaKit.Text.Blank
import SchemaKit.Text.Letter
import SchemaKit.Text.Utf8

/-!
# Files with variables

A file gives values to variables, one assignment a line. A value may be quoted, and may refer to variables
that the file has set before.

## Main definitions

* `Dotenv.expand` — a value with references to variables replaced.
* `Dotenv.key?` — the name of an assignment.
* `Dotenv.value?` — the value of an assignment.
* `Dotenv.read?` — the variables of a file.

## Design

* A file is a list of pieces, because names are read byte by byte: a byte that stands for no character can
  be part of a name if the character with its number is a letter, while a value shows the replacement
  character for it.
-/

namespace SchemaKit.Dotenv

/-- The variables that are set so far, the last one first. -/
abbrev Variables := List (String × String)

/-- The value of a variable. -/
def lookup? (vs : Variables) (name : String) : Option String :=
  (vs.find? (·.1 == name)).map (·.2)

/-- A blank that does not end a line. -/
def isSpace (c : Char) : Bool :=
  let n := c.toNat
  n = 9 || n = 11 || n = 12 || n = 13 || n = 32 || n = 0x85 || n = 0xA0

/-! ## References to variables -/

/-- Whether a character can stand in the name of a reference. -/
def isRefChar (c : Char) : Bool := ('A' ≤ c && c ≤ 'Z') || ('0' ≤ c && c ≤ '9') || c = '_'

/-- A reference behind its dollar sign: the name, and how many characters belong to it. Brackets around the
name may be missing on either side. -/
def reference (rest : List Char) : List Char × Nat :=
  let round := if rest.head? = some '(' then 1 else 0
  let rest := rest.drop round
  let curly := if rest.head? = some '\x7b' then 1 else 0
  let rest := rest.drop curly
  let name := rest.takeWhile isRefChar
  let close := if (rest.drop name.length).head? = some '\x7d' then 1 else 0
  (name, round + curly + name.length + close)

/-- Replaces references, once `skip` characters are passed over. A variable that is not set has an empty
value. A backslash in front of a dollar sign takes its meaning away. -/
def expandFrom (vs : Variables) : (skip : Nat) → List Char → List Char
  | _, [] => []
  | skip + 1, _ :: rest => expandFrom vs skip rest
  | 0, c :: rest =>
    if c = '$' then
      let (name, size) := reference rest
      let value := if name.isEmpty then '$' :: rest.take size
        else ((lookup? vs (String.ofList name)).getD "").toList
      value ++ expandFrom vs size rest
    else if c = '\\' && rest.head? = some '$' then
      let size := (reference rest.tail).2
      rest.take (size + 1) ++ expandFrom vs (size + 1) rest
    else c :: expandFrom vs 0 rest

/-- A value with references to variables replaced. -/
def expand (vs : Variables) (value : List Char) : List Char := expandFrom vs 0 value

/-- Replaces `\n` and `\r` by what they stand for. -/
def controls : List Char → List Char
  | '\\' :: c :: rest =>
    if c = 'n' then '\n' :: controls rest
    else if c = 'r' then '\r' :: controls rest
    else '\\' :: c :: controls rest
  | c :: rest => c :: controls rest
  | [] => []

/-- Takes the backslash away in front of everything but dollar signs. -/
def bare : List Char → List Char
  | '\\' :: c :: rest => if c = '$' then '\\' :: bare (c :: rest) else c :: bare rest
  | c :: rest => c :: bare rest
  | [] => []

/-! ## Assignments -/

/-- The start of the next assignment: behind white space and comments. -/
def start : (comment : Bool) → List Text.Piece → List Text.Piece
  | _, [] => []
  | comment, p :: rest =>
    if p.seen = '\n' then start false rest
    else if comment then start true rest
    else if Text.isBlank p.seen then start false rest
    else if p.seen = '#' then start true rest
    else p :: rest

/-- A number, letter, or one of a few marks, by a byte of it. A byte counts as the character with its number,
whatever it is a part of. -/
def isNameByte (b : UInt8) : Bool :=
  let c := Char.ofNat b.toNat
  let n := b.toNat
  c = '_' || c = '.' || Text.isLetter c || c.isDigit || isSpace c || n = 0xB2 || n = 0xB3 || n = 0xB9 ||
    n = 0xBC || n = 0xBD || n = 0xBE

/-- The bytes of a piece. -/
def bytesOf : Text.Piece → List UInt8
  | .char c => (String.singleton c).toUTF8.toList
  | .stray b => [b]

/-- Whether a piece can stand in a name. -/
def isNamePiece (p : Text.Piece) : Bool := (bytesOf p).all isNameByte

/-- Passes over blanks of a line. -/
def skipSpaces (s : List Text.Piece) : List Text.Piece := s.dropWhile fun p => isSpace p.seen

/-- Passes over the word that may stand in front of an assignment. -/
def skipExport (s : List Text.Piece) : List Text.Piece :=
  let word := "export".toList
  let behind := s.drop word.length
  if (s.take word.length).map Text.Piece.seen = word && behind.head?.any fun p => isSpace p.seen then
    skipSpaces behind
  else s

/-- The name of an assignment and what follows its sign. At the end of the file the sign may be missing; the
name is then empty. -/
def key? (s : List Text.Piece) : Option (String × List Text.Piece) :=
  let s := skipExport (skipSpaces s)
  let name := s.takeWhile isNamePiece
  match s.drop name.length with
  | [] => if s.isEmpty then none else some ("", s)
  | p :: rest =>
    if p.seen = '=' || p.seen = ':' then
      some (String.ofList (Text.trimRight Text.isBlank (name.map Text.Piece.seen)), skipSpaces rest)
    else none

/-- Where the comment of a line starts: at the last number sign with a blank in front of it. -/
def commentStart (cs : List Char) : Nat :=
  let isStart (i : Nat) : Bool :=
    cs[i]? = some '#' && i > 0 && cs[i - 1]?.any isSpace
  ((List.range cs.length).reverse.find? isStart).getD cs.length

/-- The text up to a quote without a backslash in front of it, and what follows. -/
def quoted? (quote : Char) : (before : Char) → List Text.Piece → Option (List Char × List Text.Piece)
  | _, [] => none
  | before, p :: rest =>
    if p.seen = quote && before ≠ '\\' then some ([], rest)
    else (quoted? quote p.seen rest).map fun (text, behind) => (p.seen :: text, behind)

/-- The value of an assignment and what follows it. Only a value in single quotes is taken as it is. -/
def value? (vs : Variables) (s : List Text.Piece) : Option (String × List Text.Piece) :=
  match s with
  | [] => some ("", [])
  | p :: rest =>
    let q := p.seen
    if q = '"' || q = '\x27' then
      match quoted? q q rest with
      | none => none
      | some (text, behind) =>
        let text := Text.trim (· == q) text
        some (String.ofList (if q = '"' then expand vs (bare (controls text)) else text), behind)
    else
      let line := (s.map Text.Piece.seen).takeWhile fun c => c != '\n' && c != '\r'
      some (String.ofList (expand vs (Text.trim isSpace (line.take (commentStart line)))),
        s.drop line.length)

/-- The variables of a file, at most `fuel` of them. -/
def assignments? : (fuel : Nat) → Variables → List Text.Piece → Option Variables
  | 0, vs, _ => some vs
  | fuel + 1, vs, s =>
    match start false s with
    | [] => some vs
    | s =>
      match key? s with
      | none => none
      | some (name, s) =>
        match value? vs s with
        | none => none
        | some (value, s) => assignments? fuel ((name, value) :: vs) s

/-- Line ends in one form. -/
def plainLines : List Text.Piece → List Text.Piece
  | .char '\r' :: .char '\n' :: rest => .char '\n' :: plainLines rest
  | p :: rest => p :: plainLines rest
  | [] => []

/-- The variables of a file, the last one first. -/
def read? (bytes : List UInt8) : Option Variables :=
  let s := plainLines (Text.pieces bytes)
  assignments? (s.length + 1) [] s

end SchemaKit.Dotenv
