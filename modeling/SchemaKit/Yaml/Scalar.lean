import SchemaKit.Yaml.Basic

/-!
# YAML scalars

A scalar is plain, quoted, or a block of lines. Over several lines, a single line end is folded into a
blank, and of several ones the first is dropped.

## Main definitions

* `Gap` — blanks and line ends between two words of a scalar.
* `plain?` — a plain scalar.
* `quoted?` — a quoted scalar.
* `block?` — a literal or folded block.
-/

namespace SchemaKit.Yaml

/-- What stands between two words of a scalar: nothing, blanks in reverse order, or a line end, which is
folded unless it is escaped, and further line ends. -/
inductive Gap where
  | none
  | blanks (reversed : List Char)
  | breaks (isFolded : Bool) (extra : Nat)

namespace Gap

/-- A gap with one more blank. Blanks around line ends do not count. -/
def blank (c : Char) : Gap → Gap
  | none => blanks [c]
  | blanks cs => blanks (c :: cs)
  | breaks f n => breaks f n

/-- A gap with one more line end. -/
def lineEnd : Gap → Gap
  | breaks f n => breaks f (n + 1)
  | _ => breaks true 0

/-- The text of a gap behind a text in reverse order. -/
def onto (text : List Char) : Gap → List Char
  | none => text
  | blanks cs => cs ++ text
  | breaks isFolded extra =>
    if isFolded && extra = 0 then ' ' :: text else List.replicate extra '\n' ++ text

/-- Whether a gap holds a line end. -/
def isBroken : Gap → Bool
  | breaks _ _ => true
  | _ => false

end Gap

/-- What was scanned: the text, and the place behind it. -/
structure Scanned where
  text : String
  behind : Cursor

/-- The text in reverse order as scanned text. -/
def Scanned.of (reversed : List Char) (behind : Cursor) : Scanned :=
  ⟨String.ofList reversed.reverse, behind⟩

/-! ## Plain scalars -/

/-- Characters that mean something inside brackets. -/
def isFlowMark (c : Char) : Bool :=
  c = ',' || c = '[' || c = ']' || c = '\x7b' || c = '\x7d'

/-- Whether a plain scalar ends in front of a character. -/
def endsPlain (flow : Bool) (c : Char) (next : Option Char) : Bool :=
  (c = ':' && isBreak next) || (flow && isFlowMark c)

/-- Scans a plain scalar. Further lines have to be indented, except inside brackets. -/
def plainFrom (flow : Bool) (indent : Nat) :
    (gap : Gap) → (text : List Char) → List Char → Nat → Option Scanned
  | _, text, [], column => some (.of text ⟨[], column⟩)
  | gap, text, c :: rest, column =>
    let stop : Option Scanned := some (.of text ⟨c :: rest, column⟩)
    let isInWord := match gap with
      | .none => true
      | _ => false
    if c = '\n' then plainFrom flow indent gap.lineEnd text rest 0
    else if c = ' ' || c = '\t' then
      if c = '\t' && gap.isBroken && column < indent then none
      else plainFrom flow indent (gap.blank c) text rest (column + 1)
    else if gap.isBroken && ((!flow && column < indent) || Cursor.atMarker ⟨c :: rest, column⟩) then
      stop
    else if (c = '#' && !isInWord) || endsPlain flow c rest.head? then stop
    else plainFrom flow indent .none (c :: gap.onto text) rest (column + 1)

/-- Whether a plain scalar can start with a character. -/
def startsPlain (flow : Bool) (c : Char) (next : Option Char) : Bool :=
  if c = '-' then !isBreak next
  else if c = '?' || c = ':' then !flow && !isBreak next
  else !(isFlowMark c || [' ', '\t', '\n', '#', '&', '*', '!', '|', '>', '\x27', '"', '%', '@', '\x60'].contains c)

/-- Scans a plain scalar. -/
def plain? (flow : Bool) (indent : Nat) (c : Cursor) : Option Scanned :=
  match c.peek? with
  | none => none
  | some d =>
    if startsPlain flow d c.second? then plainFrom flow indent .none [] c.rest c.column else none

/-! ## Quoted scalars -/

/-- The character with the number that the first `n` hexadecimal digits give. -/
def hexChar? (n : Nat) (rest : List Char) : Option Char :=
  let digits := rest.take n
  if digits.length = n then
    match Text.digitsValue? 16 digits with
    | some k => if k.isValidChar then some (Char.ofNat k) else none
    | none => none
  else none

/-- The character that an escape stands for, and how many characters it takes behind its letter. -/
def escape? (letter : Char) (rest : List Char) : Option (Char × Nat) :=
  match letter with
  | '0' => some ('\x00', 0)
  | 'a' => some ('\x07', 0)
  | 'b' => some ('\x08', 0)
  | 't' => some ('\t', 0)
  | '\t' => some ('\t', 0)
  | 'n' => some ('\n', 0)
  | 'v' => some ('\x0b', 0)
  | 'f' => some ('\x0c', 0)
  | 'r' => some ('\r', 0)
  | 'e' => some ('\x1b', 0)
  | ' ' => some (' ', 0)
  | '"' => some ('"', 0)
  | '\x27' => some ('\x27', 0)
  | '/' => some ('/', 0)
  | '\\' => some ('\\', 0)
  | 'N' => some ('\u0085', 0)
  | '_' => some ('\u00a0', 0)
  | 'L' => some ('\u2028', 0)
  | 'P' => some ('\u2029', 0)
  | 'x' => (hexChar? 2 rest).map (·, 2)
  | 'u' => (hexChar? 4 rest).map (·, 4)
  | 'U' => (hexChar? 8 rest).map (·, 8)
  | _ => none

/-- Scans a quoted scalar behind its first quote, once `skip` characters are passed over. -/
def quotedFrom (quote : Char) : (skip : Nat) → (gap : Gap) → (text : List Char) →
    List Char → Nat → Option Scanned
  | _, _, _, [], _ => none
  | skip + 1, gap, text, c :: rest, column =>
    quotedFrom quote skip gap text rest (if c = '\n' then 0 else column + 1)
  | 0, gap, text, c :: rest, column =>
    if c = '\n' then quotedFrom quote 0 gap.lineEnd text rest 0
    else if c = ' ' || c = '\t' then quotedFrom quote 0 (gap.blank c) text rest (column + 1)
    else if Cursor.atMarker ⟨c :: rest, column⟩ then none
    else
      let text := gap.onto text
      if c = quote then
        if quote = '\x27' && rest.head? = some '\x27' then
          quotedFrom quote 1 .none ('\x27' :: text) rest (column + 1)
        else some (.of text ⟨rest, column + 1⟩)
      else if c = '\\' && quote = '"' then
        match rest with
        | [] => none
        | letter :: more =>
          if letter = '\n' then quotedFrom quote 1 (.breaks false 0) text rest (column + 1)
          else match escape? letter more with
            | none => none
            | some (d, n) => quotedFrom quote (n + 1) .none (d :: text) rest (column + 1)
      else quotedFrom quote 0 .none (c :: text) rest (column + 1)

/-- Scans a quoted scalar. -/
def quoted? (c : Cursor) : Option Scanned :=
  match c.rest with
  | d :: rest =>
    if d = '"' || d = '\x27' then quotedFrom d 0 .none [] rest (c.column + 1) else none
  | [] => none

/-! ## Blocks -/

/-- What happens to the line ends behind a block: they are dropped, one is kept, or all are kept. -/
inductive Chomping where
  | strip
  | clip
  | keep
  deriving DecidableEq, Repr

/-- The header of a block: whether lines are folded, by how much they are indented if that is given, and
what happens to the last line ends. -/
structure Header where
  isFolded : Bool
  increment : Option Nat
  chomping : Chomping

/-- One more sign in a header: an increment or a chomping, each at most once. -/
def Header.add? (h : Header) (c : Char) : Option Header :=
  if c = '+' && h.chomping = .clip then some ⟨h.isFolded, h.increment, .keep⟩
  else if c = '-' && h.chomping = .clip then some ⟨h.isFolded, h.increment, .strip⟩
  else if '1' ≤ c && c ≤ '9' && h.increment.isNone then
    some ⟨h.isFolded, some (c.toNat - 48), h.chomping⟩
  else none

/-- The header of a block and the place at the start of the next line. -/
def header? (c : Cursor) : Option (Header × Cursor) :=
  match c.rest with
  | [] => none
  | mark :: rest =>
    let signs := rest.takeWhile fun d => d = '+' || d = '-' || ('0' ≤ d && d ≤ '9')
    let tail := (rest.drop signs.length).dropWhile fun d => d = ' ' || d = '\t'
    match signs.foldlM Header.add? ⟨mark = '>', none, .clip⟩ with
    | none => none
    | some h =>
      let tail := if tail.head? = some '#' then tail.dropWhile (· != '\n') else tail
      match tail with
      | [] => some (h, ⟨[], 0⟩)
      | d :: rest => if d = '\n' then some (h, ⟨rest, 0⟩) else none

/-- Passes over empty lines and the indentation of the next line; none if a tab stands in the indentation.
Gives the number of empty lines and the largest column that was reached. An indentation of zero is
not known yet. -/
def emptyLines? (indent : Nat) :
    (count reached : Nat) → List Char → Nat → Option (Nat × Nat × Cursor)
  | count, reached, [], column => some (count, max reached column, ⟨[], column⟩)
  | count, reached, c :: rest, column =>
    if c = '\n' then emptyLines? indent (count + 1) (max reached column) rest 0
    else if indent = 0 || column < indent then
      if c = ' ' then emptyLines? indent count reached rest (column + 1)
      else if c = '\t' then none
      else some (count, max reached column, ⟨c :: rest, column⟩)
    else some (count, max reached column, ⟨c :: rest, column⟩)

/-- A block so far: its text in reverse order, whether a line end is due, how many empty lines followed it,
and whether the last line started with a blank. -/
structure Lines where
  text : List Char
  isDue : Bool
  empty : Nat
  isBlank : Bool

/-- Puts a line behind a block. -/
def Lines.add (isFolded : Bool) (b : Lines) (line : List Char) : Lines :=
  let isBlank := line.head?.any fun c => c = ' ' || c = '\t'
  let text :=
    if isFolded && !b.isBlank && !isBlank && b.isDue then
      if b.empty = 0 then ' ' :: b.text else b.text
    else if b.isDue then '\n' :: b.text
    else b.text
  ⟨line.reverse ++ (List.replicate b.empty '\n' ++ text), true, 0, isBlank⟩

/-- The text of a block. -/
def Lines.finish (chomping : Chomping) (b : Lines) : List Char :=
  let due := if b.isDue && chomping ≠ .strip then '\n' :: b.text else b.text
  if chomping = .keep then List.replicate b.empty '\n' ++ due else due

/-- The lines of a block, at most `fuel` of them. -/
def linesFrom (isFolded : Bool) (indent : Nat) : (fuel : Nat) → Lines → Cursor → Option (Lines × Cursor)
  | 0, b, c => some (b, c)
  | fuel + 1, b, c =>
    if c.column ≠ indent || c.rest.isEmpty then some (b, c)
    else
      let line := c.rest.takeWhile (· != '\n')
      let rest := c.rest.drop line.length
      let b := b.add isFolded line
      match rest with
      | [] => some (⟨b.text, false, 0, b.isBlank⟩, ⟨[], c.column + line.length⟩)
      | _ :: rest =>
        match emptyLines? indent 0 0 rest 0 with
        | none => none
        | some (count, _, c) =>
          linesFrom isFolded indent fuel ⟨b.text, b.isDue, count, b.isBlank⟩ c

/-- Scans a block that stands in a collection whose column is one less than `least`. -/
def block? (least : Nat) (c : Cursor) : Option Scanned :=
  match header? c with
  | none => none
  | some (h, c) =>
    let known := match h.increment with
      | some n => least - 1 + n
      | none => 0
    match emptyLines? known 0 0 c.rest c.column with
    | none => none
    | some (count, reached, c) =>
      let indent := if known = 0 then max (max reached least) 1 else known
      match linesFrom h.isFolded indent (c.rest.length + 1) ⟨[], false, count, false⟩ c with
      | none => none
      | some (b, c) => some (.of (b.finish h.chomping) c)

end SchemaKit.Yaml
