import SchemaKit.Json.Basic
import SchemaKit.Text.Hex
import SchemaKit.Text.Utf8

/-!
# Reading JSON

The reader takes one character at a time. Its state is a stack of the containers that are open and
a mode that says what may come next. Some callers read a whole text as one value, others take the
first value and ignore what follows it; both are runs of the same machine.

## Main definitions

* `Reader` — the state: open containers, how many more may be opened, mode.
* `Reader.step` — the effect of one character.
* `readWhole` — the value of a text that holds nothing else.
* `readFirst` — the value at the start of a text.

## Design

A number ends only when a character follows that cannot continue it, so the machine first delivers
the number and then looks at the character again. A blank is read behind the text for the same
reason: it ends a number and changes nothing else.
-/

namespace SchemaKit.Json

/-- Space, tab, line feed and carriage return may stand between tokens. -/
def isBlank (c : Char) : Bool := c == ' ' || c == '\t' || c == '\n' || c == '\r'

/-- Decimal digit. -/
def isDigit (c : Char) : Bool := '0' ≤ c && c ≤ '9'

/-! ## Numbers -/

/-- What has been read of a number literal. Digits under construction are in reverse order. -/
inductive NumeralState where
  | minus
  | whole (negative : Bool) (digits : List Char)
  | point (negative : Bool) (whole : List Char)
  | fraction (negative : Bool) (whole digits : List Char)
  | mark (negative : Bool) (whole : List Char) (fraction : Option (List Char)) (capital : Bool)
  | sign (negative : Bool) (whole : List Char) (fraction : Option (List Char)) (capital : Bool)
      (minus : Bool)
  | exponent (negative : Bool) (whole : List Char) (fraction : Option (List Char))
      (capital : Bool) (sign : Option Bool) (digits : List Char)

namespace NumeralState

/-- The literal read so far, if it may end here. -/
def complete? : NumeralState → Option Numeral
  | .whole neg ds => some ⟨neg, ds.reverse, none, none⟩
  | .fraction neg w ds => some ⟨neg, w, some ds.reverse, none⟩
  | .exponent neg w f cap sgn ds => some ⟨neg, w, f, some ⟨cap, sgn, ds.reverse⟩⟩
  | _ => none

/-- The literal with one more character, if that continues it. A leading zero takes no further
digit. -/
def advance? (s : NumeralState) (c : Char) : Option NumeralState :=
  match s with
  | .minus => if isDigit c then some (.whole true [c]) else none
  | .whole neg ds =>
    if isDigit c then (if ds = ['0'] then none else some (.whole neg (c :: ds)))
    else if c = '.' then some (.point neg ds.reverse)
    else if c = 'e' || c = 'E' then some (.mark neg ds.reverse none (c = 'E'))
    else none
  | .point neg w => if isDigit c then some (.fraction neg w [c]) else none
  | .fraction neg w ds =>
    if isDigit c then some (.fraction neg w (c :: ds))
    else if c = 'e' || c = 'E' then some (.mark neg w (some ds.reverse) (c = 'E'))
    else none
  | .mark neg w f cap =>
    if isDigit c then some (.exponent neg w f cap none [c])
    else if c = '+' || c = '-' then some (.sign neg w f cap (c = '-'))
    else none
  | .sign neg w f cap m => if isDigit c then some (.exponent neg w f cap (some m) [c]) else none
  | .exponent neg w f cap sgn ds =>
    if isDigit c then some (.exponent neg w f cap sgn (c :: ds)) else none

end NumeralState

/-! ## Strings -/

/-- What has been read of a string: its characters in reverse order, and the first half of a
surrogate pair if the second half may still follow. -/
structure StringState where
  chars : List Char
  high : Option Nat

namespace StringState

/-- A first half that got no second half stands for the replacement character. -/
def settle (s : StringState) : List Char :=
  match s.high with
  | none => s.chars
  | some _ => Text.replacement :: s.chars

/-- Takes a character. -/
def push (s : StringState) (c : Char) : StringState := ⟨c :: s.settle, none⟩

/-- Takes the sixteen bits of an escape. -/
def pushUnit (s : StringState) (u : Nat) : StringState :=
  if 0xDC00 ≤ u && u < 0xE000 then
    match s.high with
    | some h => ⟨Char.ofNat (0x10000 + (h - 0xD800) * 0x400 + (u - 0xDC00)) :: s.chars, none⟩
    | none => s.push Text.replacement
  else if 0xD800 ≤ u && u < 0xDC00 then ⟨s.settle, some u⟩
  else s.push (Char.ofNat u)

/-- The string that was read. -/
def text (s : StringState) : String := String.ofList s.settle.reverse

end StringState

/-- Where the reader is within a string: between characters, after a backslash, or within the
hexadecimal digits of an escape. -/
inductive Escape where
  | none
  | backslash
  | digits (missing : Nat) (value : Nat)

/-- The character that a letter after a backslash stands for. -/
def unescape? (c : Char) : Option Char :=
  match c with
  | '"' => some '"'
  | '\\' => some '\\'
  | '/' => some '/'
  | 'b' => some '\x08'
  | 'f' => some '\x0c'
  | 'n' => some '\n'
  | 'r' => some '\r'
  | 't' => some '\t'
  | _ => none

/-! ## The machine -/

/-- A container that is open, with what it holds so far in reverse order. -/
inductive Frame where
  | items (done : List Json)
  | members (done : List (String × Json)) (name : String)

/-- What the reader expects. -/
inductive Mode where
  | value
  | firstItem
  | firstName
  | name
  | colon
  | separator
  | string (isName : Bool) (state : StringState) (escape : Escape)
  | numeral (state : NumeralState)
  | word (rest : List Char) (value : Json)
  | finished (value : Json) (alone : Bool)
  | failed

/-- The state of the reader. -/
structure Reader where
  stack : List Frame
  room : Nat
  mode : Mode

/-- How deep containers may be nested. -/
def maxDepth : Nat := 10000

namespace Reader

/-- The state before a text. -/
def init : Reader := ⟨[], maxDepth, .value⟩

/-- The state after a text that is no JSON. -/
def fail (r : Reader) : Reader := { r with mode := .failed }

/-- A value is complete: it goes into the innermost open container. -/
def deliver (r : Reader) (v : Json) : Reader :=
  match r.stack with
  | [] => { r with mode := .finished v true }
  | .items done :: rest => ⟨.items (v :: done) :: rest, r.room, .separator⟩
  | .members done name :: rest => ⟨.members ((name, v) :: done) name :: rest, r.room, .separator⟩

/-- Closes the innermost container if it is an array. -/
def closeArray (r : Reader) : Reader :=
  match r.stack with
  | .items done :: rest => deliver ⟨rest, r.room + 1, .value⟩ (.arr done.reverse)
  | _ => r.fail

/-- Closes the innermost container if it is an object. -/
def closeObject (r : Reader) : Reader :=
  match r.stack with
  | .members done _ :: rest => deliver ⟨rest, r.room + 1, .value⟩ (.obj done.reverse)
  | _ => r.fail

/-- Opens a container if there is room. -/
def openFrame (r : Reader) (f : Frame) (m : Mode) : Reader :=
  match r.room with
  | 0 => r.fail
  | room + 1 => ⟨f :: r.stack, room, m⟩

/-- The first character of a value. -/
def startValue (r : Reader) (c : Char) : Reader :=
  if c = '\x7b' then r.openFrame (.members [] "") .firstName
  else if c = '[' then r.openFrame (.items []) .firstItem
  else if c = '"' then { r with mode := .string false ⟨[], none⟩ .none }
  else if c = '-' then { r with mode := .numeral .minus }
  else if isDigit c then { r with mode := .numeral (.whole false [c]) }
  else if c = 't' then { r with mode := .word ['r', 'u', 'e'] (.bool true) }
  else if c = 'f' then { r with mode := .word ['a', 'l', 's', 'e'] (.bool false) }
  else if c = 'n' then { r with mode := .word ['u', 'l', 'l'] .null }
  else r.fail

/-- A comma or the end of a container. -/
def stepSeparator (r : Reader) (c : Char) : Reader :=
  match r.stack with
  | .items _ :: _ =>
    if c = ',' then { r with mode := .value } else if c = ']' then r.closeArray else r.fail
  | .members _ _ :: _ =>
    if c = ',' then { r with mode := .name } else if c = '\x7d' then r.closeObject else r.fail
  | [] => r.fail

/-- A string is complete: it is a value or the name of a member. -/
def endString (r : Reader) (isName : Bool) (s : String) : Reader :=
  if isName then
    match r.stack with
    | .members done _ :: rest => ⟨.members done s :: rest, r.room, .colon⟩
    | _ => r.fail
  else r.deliver (.str s)

/-- A character within a string. -/
def stepString (r : Reader) (isName : Bool) (s : StringState) (e : Escape) (c : Char) : Reader :=
  match e with
  | .none =>
    if c = '"' then r.endString isName s.text
    else if c = '\\' then { r with mode := .string isName s .backslash }
    else if c.toNat < 32 then r.fail
    else { r with mode := .string isName (s.push c) .none }
  | .backslash =>
    if c = 'u' then { r with mode := .string isName s (.digits 4 0) }
    else match unescape? c with
      | some d => { r with mode := .string isName (s.push d) .none }
      | none => r.fail
  | .digits missing v =>
    match Text.hexValue? c with
    | none => r.fail
    | some h =>
      if missing ≤ 1 then { r with mode := .string isName (s.pushUnit (16 * v + h)) .none }
      else { r with mode := .string isName s (.digits (missing - 1) (16 * v + h)) }

/-- A character outside of strings, numbers and words. -/
def stepBetween (r : Reader) (c : Char) : Reader :=
  match r.mode with
  | .finished v alone => { r with mode := .finished v (alone && isBlank c) }
  | .failed => r
  | mode =>
    if isBlank c then r
    else match mode with
      | .value => r.startValue c
      | .firstItem => if c = ']' then r.closeArray else r.startValue c
      | .firstName =>
        if c = '\x7d' then r.closeObject
        else if c = '"' then { r with mode := .string true ⟨[], none⟩ .none }
        else r.fail
      | .name => if c = '"' then { r with mode := .string true ⟨[], none⟩ .none } else r.fail
      | .colon => if c = ':' then { r with mode := .value } else r.fail
      | .separator => r.stepSeparator c
      | _ => r.fail

/-- The effect of one character. -/
def step (r : Reader) (c : Char) : Reader :=
  match r.mode with
  | .string isName s e => r.stepString isName s e c
  | .numeral s =>
    match s.advance? c with
    | some s' => { r with mode := .numeral s' }
    | none =>
      match s.complete? with
      | some n => (r.deliver (.num n)).stepBetween c
      | none => r.fail
  | .word [] v => (r.deliver v).stepBetween c
  | .word [d] v => if c = d then r.deliver v else r.fail
  | .word (d :: rest) v => if c = d then { r with mode := .word rest v } else r.fail
  | _ => r.stepBetween c

/-- The state after a text. -/
def run (r : Reader) (cs : List Char) : Reader := cs.foldl step r

/-- Nothing is read from no characters. -/
@[simp] theorem run_nil (r : Reader) : r.run [] = r := rfl

/-- The first character is a step, and the others are read from the state after it. -/
@[simp] theorem run_cons (r : Reader) (c : Char) (cs : List Char) :
    r.run (c :: cs) = (r.step c).run cs := rfl

/-- A text can be read in two parts, the second one from the state after the first. -/
theorem run_append (r : Reader) (cs ds : List Char) : r.run (cs ++ ds) = (r.run cs).run ds := by
  simp [run, List.foldl_append]

end Reader

/-- The state after a text and the blank behind it. -/
def scan (cs : List Char) : Mode := ((Reader.init.run cs).step ' ').mode

/-- The value of a text that holds nothing else but blanks. -/
def readWhole (cs : List Char) : Option Json :=
  match scan cs with
  | .finished v true => some v
  | _ => none

/-- The value at the start of a text. -/
def readFirst (cs : List Char) : Option Json :=
  match scan cs with
  | .finished v _ => some v
  | _ => none

end SchemaKit.Json
