import SchemaKit.Decimal.Digits
import SchemaKit.Text.Letter

/-!
# Log levels

A level is a small number; some levels have names.

## Main definitions

* `Level` — a level.
* `Level.name` — its name, or its number if it has none.
* `Level.parse` — the level that a text means.
-/

namespace SchemaKit

/-- A log level. Events are written if their level is not below that of the log. -/
structure Level where
  number : Int
  deriving DecidableEq, Repr

namespace Level

/-- The levels that have names. The level without a name of its own is one of them. -/
def table : List (Int × String) :=
  [(-1, "trace"), (0, "debug"), (1, "info"), (2, "warn"), (3, "error"), (4, "fatal"), (5, "panic"),
    (7, "disabled"), (6, "")]

/-- Details for those who look for a fault. -/
def debug : Level := ⟨0⟩

/-- What happens in general. -/
def info : Level := ⟨1⟩

/-- What keeps the work from being done. -/
def error : Level := ⟨3⟩

/-- The level that the empty text means. -/
def unset : Level := ⟨6⟩

/-- The name of a level, or its number if it has none. -/
def name (l : Level) : String :=
  ((table.find? (·.1 = l.number)).map (·.2)).getD (Decimal.intText l.number)

/-- Why a text does not mean a level. -/
inductive Fault where
  | unknown (text : String)
  | outOfRange (number : Int)
  deriving DecidableEq, Repr

/-- The wording of a fault. -/
def Fault.message : Fault → String
  | unknown text => "Unknown Level String: '" ++ text ++ "', defaulting to NoLevel"
  | outOfRange n => "Out-Of-Bounds Level: '" ++ Decimal.intText n ++ "', defaulting to NoLevel"

/-- The number that decimal digits with an optional sign mean, in 64 bits. -/
def number? (text : String) : Option Int :=
  let digits? (ds : List Char) : Option Nat :=
    if ds.isEmpty || !ds.all Char.isDigit then none else some (Decimal.value ds)
  let n : Option Int := match text.toList with
    | '-' :: ds => (digits? ds).map fun n => -(n : Int)
    | '+' :: ds => (digits? ds).map Int.ofNat
    | ds => (digits? ds).map Int.ofNat
  n.filter fun n => -9223372036854775808 ≤ n && n ≤ 9223372036854775807

/-- The level that a text means: a name in any case, or a number of eight bits. -/
def parse (text : String) : Except Fault Level :=
  let text := Text.lowerText text
  match table.find? (Text.equalFold ·.2 text) with
  | some (n, _) => .ok ⟨n⟩
  | none =>
    match number? text with
    | none => .error (.unknown text)
    | some n => if n > 127 || n < -128 then .error (.outOfRange n) else .ok ⟨n⟩

/-- Whether an event of level `l` is written to a log of level `log`. -/
def isWritten (l log : Level) : Bool := log.number ≤ l.number

end Level

end SchemaKit
