import SchemaKit.Config.Level
import SchemaKit.Text.Quoted

/-!
# Log events

## Main definitions

* `Event` — something worth noting, with its level and fields.
* `Event.line` — an event as one line of JSON.
-/

namespace SchemaKit

/-- The value of a field of an event. -/
inductive Event.Field where
  | text (s : String)
  | number (n : Nat)
  deriving DecidableEq, Repr

/-- Something worth noting. -/
structure Event where
  level : Level
  fields : List (String × Event.Field)
  message : String
  deriving DecidableEq, Repr

namespace Event

/-- A character in a line. Quotes, backslashes and control characters are escaped. -/
def escape (c : Char) : List Char :=
  match c with
  | '"' => ['\\', '"']
  | '\\' => ['\\', '\\']
  | '\x08' => ['\\', 'b']
  | '\x0c' => ['\\', 'f']
  | '\n' => ['\\', 'n']
  | '\r' => ['\\', 'r']
  | '\t' => ['\\', 't']
  | c => if c.toNat < 32 || c.toNat = 127 then "\\u".toList ++ Text.hex 4 c.toNat else [c]

/-- A quoted text in a line. -/
def quoted (s : String) : String := "\"" ++ String.ofList (s.toList.flatMap escape) ++ "\""

/-- The value of a field in a line. -/
def Field.shown : Field → String
  | text s => quoted s
  | number n => Decimal.text n

/-- An event as a line, without the line end. -/
def line (e : Event) : String :=
  let fields := e.fields.map fun (name, v) => "," ++ quoted name ++ ":" ++ v.shown
  "\x7b\"level\":" ++ quoted e.level.name ++ String.join fields ++ ",\"message\":" ++ quoted e.message ++
    "\x7d"

/-- The lines of the events that a log of a level takes. -/
def lines (log : Level) (events : List Event) : String :=
  String.join ((events.filter fun e => e.level.isWritten log).map fun e => e.line ++ "\n")

end Event

end SchemaKit
