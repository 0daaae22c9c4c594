import SchemaKit.Json.Reader
import SchemaKit.Text.Split

/-!
# Pointers into values

A pointer is a sequence of names and array positions that leads from a value to a part of it.

## Main definitions

* `Pointer.parse` — the tokens of a pointer text. A text that is no pointer leads nowhere else.
* `Pointer.find` — the part that a pointer leads to, or why there is none.
-/

namespace SchemaKit.Json.Pointer

/-- Why a pointer leads nowhere. -/
inductive Fault where
  | noMember (name : String)
  | badPosition (text : String)
  | outOfRange (size : Nat) (position : Int)
  | notContainer (token : String)

/-- The wording of a fault. -/
def Fault.message : Fault → String
  | .noMember name => "Object has no key '" ++ name ++ "'"
  | .badPosition text => "Invalid array index '" ++ text ++ "'"
  | .outOfRange size position =>
    "Out of bound array[0," ++ Decimal.text size ++ "] index '" ++ Decimal.intText position ++ "'"
  | .notContainer token => "Invalid token reference '" ++ token ++ "'"

/-- Reads the two escapes of a token: `~1` is a slash, `~0` a tilde. -/
def unescapeToken : List Char → List Char
  | '~' :: '1' :: rest => '/' :: unescapeToken rest
  | '~' :: '0' :: rest => '~' :: unescapeToken rest
  | c :: rest => c :: unescapeToken rest
  | [] => []

/-- The tokens of a pointer. -/
def parse (s : List Char) : List String :=
  match s with
  | '/' :: rest => (Text.splitAll '/' rest).map fun t => String.ofList (unescapeToken t)
  | _ => []

/-- A position: an optional sign and digits. -/
def position? (token : String) : Option Int :=
  let digits (ds : List Char) : Option Nat :=
    if ds.isEmpty || !ds.all isDigit then none else some (Decimal.value ds)
  (match token.toList with
    | '-' :: ds => (digits ds).map fun n => -(n : Int)
    | '+' :: ds => (digits ds).map Int.ofNat
    | ds => (digits ds).map Int.ofNat).filter inInt64

/-- Follows one token. -/
def enter (v : Json) (token : String) : Except Fault Json :=
  match v with
  | .obj members =>
    match last? members token with
    | some w => .ok w
    | none => .error (.noMember token)
  | .arr items =>
    match position? token with
    | none => .error (.badPosition token)
    | some i =>
      match (if 0 ≤ i then items[i.toNat]? else none) with
      | some w => .ok w
      | none => .error (.outOfRange items.length i)
  | _ => .error (.notContainer token)

/-- Follows a sequence of tokens. -/
def find (v : Json) : List String → Except Fault Json
  | [] => .ok v
  | t :: rest =>
    match enter v t with
    | .ok w => find w rest
    | .error e => .error e

end SchemaKit.Json.Pointer
