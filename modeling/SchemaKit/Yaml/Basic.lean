import SchemaKit.Text.Base64
import SchemaKit.Text.Hex
import SchemaKit.Text.Utf8

/-!
# YAML documents

## Main definitions

* `Node` — a scalar, a list, a table, or an alias of a node.
* `Tag` — what is said about the meaning of a scalar.
* `Node.meaning?` — what a scalar means.
* `Cursor` — the rest of a text and the column where it starts.
-/

namespace SchemaKit.Yaml

/-- What is said about the meaning of a scalar. Of a `plain` one nothing is said; quoted scalars and blocks
are texts, and a tag in front of a scalar may ask for something else. A `merge` is a text as well, but as a
key it may stand for the entries of other tables. -/
inductive Tag where
  | plain
  | text
  | merge
  | binary
  | null
  | truth
  | integer
  | real
  deriving DecidableEq, Repr

/-- A node of a document. An alias is the name of an anchor together with the node that the anchor was put
in front of, which is no alias itself. -/
inductive Node where
  | scalar (text : String) (tag : Tag)
  | list (items : List Node)
  | table (entries : List (Node × Node))
  | byName (anchor : String) (target : Node)

instance : Inhabited Node := ⟨.scalar "" .plain⟩

/-- What a scalar means: nothing, or a text that may also be a truth value. -/
inductive Meaning where
  | null
  | value (text : String) (truth : Option Bool)
  deriving DecidableEq, Repr

/-! ## Plain words -/

/-- What a plain scalar means. -/
def plainMeaning (text : String) : Meaning :=
  if ["", "~", "null", "Null", "NULL"].contains text then .null
  else if ["true", "True", "TRUE"].contains text then .value text (some true)
  else if ["false", "False", "FALSE"].contains text then .value text (some false)
  else .value text none

/-- The digits of a number without its sign: the base, and the digits behind the sign of the base. -/
def baseOf : List Char → Nat × List Char
  | '0' :: 'x' :: ds | '0' :: 'X' :: ds => (16, ds)
  | '0' :: 'o' :: ds | '0' :: 'O' :: ds => (8, ds)
  | '0' :: 'b' :: ds | '0' :: 'B' :: ds => (2, ds)
  | '0' :: d :: ds => (8, d :: ds)
  | ds => (10, ds)

/-- Whether a text is an integer of 64 bits. Low lines between digits do not count. -/
def isInteger (text : String) : Bool :=
  let value? (ds : List Char) : Option Nat :=
    let (base, ds) := baseOf (ds.filter (· ≠ '_'))
    if ds.isEmpty then none else Text.digitsValue? base ds
  match text.toList with
  | '-' :: ds => (value? ds).any (· ≤ 9223372036854775808)
  | '+' :: ds => (value? ds).any (· ≤ 9223372036854775807)
  | c :: ds => c.isDigit && (value? (c :: ds)).any (· ≤ 18446744073709551615)
  | [] => false

/-- A text without its sign. -/
def unsigned : List Char → List Char
  | '-' :: ds | '+' :: ds => ds
  | ds => ds

/-- Whether digits with at most one point are the mantissa of a number. -/
def isMantissa (ds : List Char) : Bool :=
  let whole := ds.takeWhile Char.isDigit
  match ds.drop whole.length with
  | [] => !whole.isEmpty
  | '.' :: part => part.all Char.isDigit && !(whole.isEmpty && part.isEmpty)
  | _ => false

/-- Whether a text is a number with a point or an exponent, infinite, or no number at all. -/
def isReal (text : String) : Bool :=
  let cs := text.toList.filter (· ≠ '_')
  let mantissa := (unsigned cs).takeWhile fun c => c ≠ 'e' && c ≠ 'E'
  let exponent := (unsigned cs).drop mantissa.length
  let isExponent := match exponent with
    | [] => true
    | _ :: ds => !(unsigned ds).isEmpty && (unsigned ds).all Char.isDigit
  [".nan", ".NaN", ".NAN"].contains text ||
    [".inf", ".Inf", ".INF"].contains (String.ofList (unsigned text.toList)) ||
    (isMantissa mantissa && isExponent)

/-! ## Meanings -/

namespace Node

/-- The node that stands where nothing is written. -/
def nothing : Node := .scalar "" .plain

/-- What an alias stands for inside of the node that has its name: a collection that fits nowhere, neither as
a table nor as a list of texts. -/
def opened : Node := .list [.list []]

/-- The node that an alias stands for, and any other node itself. -/
def resolved : Node → Node
  | byName _ target => target.resolved
  | n => n

/-- What a scalar means, if its text fits its tag. An alias means what its node means. -/
def meaning? : Node → Option Meaning
  | byName _ target => target.meaning?
  | scalar text tag =>
    match tag with
    | .plain => some (plainMeaning text)
    | .text | .merge => some (.value text none)
    | .binary => (Text.Base64.decode? text.toList).map fun bytes =>
      .value (String.ofList (Text.decode bytes)) none
    | .null => if plainMeaning text = .null then some .null else none
    | .truth =>
      match plainMeaning text with
      | .value text (some b) => some (.value text (some b))
      | _ => none
    | .integer => if isInteger text then some (.value text none) else none
    | .real => if isInteger text || isReal text then some (.value text none) else none
  | _ => none

end Node

/-- The truth value of a scalar. The words `true` and `false` have to be plain; some older words may also
be quoted. -/
def Meaning.truth? : Meaning → Option Bool
  | null => none
  | value _ (some b) => some b
  | value text none =>
    if ["y", "Y", "yes", "on"].contains text then some true
    else if ["n", "N", "no", "off"].contains text then some false
    else none

/-- The rest of a text and the column where it starts. -/
structure Cursor where
  rest : List Char
  column : Nat

/-- Whether a character, or the end of the text, ends a word. -/
def isBreak : Option Char → Bool
  | none => true
  | some c => c = ' ' || c = '\t' || c = '\n'

namespace Cursor

/-- The next character. -/
def peek? (c : Cursor) : Option Char := c.rest.head?

/-- The character behind the next one. -/
def second? (c : Cursor) : Option Char := c.rest.tail.head?

/-- Passes over one character of a line. -/
def next (c : Cursor) : Cursor := ⟨c.rest.tail, c.column + 1⟩

/-- Whether a line that marks the border of a document starts here. -/
def atMarker (c : Cursor) : Bool :=
  c.column = 0 &&
    (['-', '-', '-'].isPrefixOf c.rest || ['.', '.', '.'].isPrefixOf c.rest) &&
    isBreak (c.rest.drop 3).head?

/-- Whether the document ends here. -/
def atEnd (c : Cursor) : Bool := c.rest.isEmpty || c.atMarker

/-- Whether an indicator stands here, with a blank behind it. -/
def atIndicator (c : Cursor) (mark : Char) : Bool := c.peek? = some mark && isBreak c.second?

/-- Passes over blanks of a line. -/
def skipBlanks (c : Cursor) : Cursor :=
  let blanks := c.rest.takeWhile fun d => d = ' ' || d = '\t'
  ⟨c.rest.drop blanks.length, c.column + blanks.length⟩

/-- Passes over blanks, comments and line ends. At the start of a line a tab is passed over only if `tabs`
are allowed there. -/
def skipFrom (tabs : Bool) : (comment here : Bool) → List Char → Nat → Cursor
  | _, _, [], column => ⟨[], column⟩
  | comment, here, d :: rest, column =>
    if d = '\n' then skipFrom tabs false tabs rest 0
    else if comment then skipFrom tabs true here rest (column + 1)
    else if d = ' ' || (d = '\t' && here) then skipFrom tabs false here rest (column + 1)
    else if d = '#' then skipFrom tabs true here rest (column + 1)
    else ⟨d :: rest, column⟩

/-- Passes over blanks, comments and line ends between block nodes. -/
def toNext (c : Cursor) : Cursor := skipFrom false false true c.rest c.column

/-- The same where a collection can start, so that a tab is not passed over. -/
def toFresh (c : Cursor) : Cursor := skipFrom false false false c.rest c.column

/-- Passes over blanks, comments and line ends inside brackets. -/
def toNextFlow (c : Cursor) : Cursor := skipFrom true false true c.rest c.column

/-- Whether a later place stands on the same line, and not too far away for a key. -/
def reachesOnLine (c d : Cursor) : Bool :=
  let passed := c.rest.take (c.rest.length - d.rest.length)
  passed.length ≤ 1024 && !passed.contains '\n'

/-- Whether only blanks and a comment are left on the line. -/
def atLineEnd (c : Cursor) : Bool :=
  match c.skipBlanks.peek? with
  | none => true
  | some d => d = '\n' || d = '#'

end Cursor

end SchemaKit.Yaml
