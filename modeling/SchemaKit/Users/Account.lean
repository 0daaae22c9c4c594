import SchemaKit.Entity
import SchemaKit.Validation.Report

/-!
# Accounts

An account is a user that is stored as text. Reading a text validates it first; a text that is
refused at any step leaves the account as it was.

## Main definitions

* `Account` — a user with greetings and a text form.
* `Account.deserialize` — the account after reading a text, or why the text is refused.
* `integral` — the integer that a number literal stands for.
-/

namespace SchemaKit

/-- A user that is stored as text. -/
abbrev Account := User

namespace Account

/-- Why a text is refused. -/
inductive Refusal where
  | rejected (r : Validation.Rejection)
  | malformed
  | notNumber (text : String)
  | outOfRange (literal : String)
  | notInteger (literal : String)

/-- The wording of a refusal. The reader's own words are left out. -/
def Refusal.message (r : Refusal) : String :=
  accountEntity.name ++ ": parse: " ++
    match r with
    | rejected r => r.message
    | malformed => "<cause>"
    | notNumber text =>
      "json: invalid number literal, trying to unmarshal " ++ Text.quote text ++ " into Number"
    | outOfRange literal =>
      "id " ++ literal ++ ": strconv.ParseFloat: parsing " ++ Text.quote literal ++
        ": value out of range"
    | notInteger literal => "id " ++ literal ++ " is not an integer"

/-- Whether a refusal is reported as a failure to parse. All are, unless the text was not even judged
because the validation broke down. -/
def Refusal.isParse : Refusal → Bool
  | rejected .undecidable => false
  | _ => true

/-- The integer that a number literal stands for: a plain literal directly, another one through the
nearest double, which has to be an integer in the 64-bit range. -/
def integral (n : Json.Numeral) : Except Refusal Int :=
  match n.int64? with
  | some i => .ok i
  | none =>
    match n.double? with
    | none => .error (.outOfRange n.text)
    | some d =>
      let magnitude := match d.magnitude with
        | none => some 0
        | some b => b.toNat?
      match magnitude with
      | none => .error (.notInteger n.text)
      | some m =>
        let i : Int := if d.negative then -(m : Int) else m
        if Json.inInt64 i then .ok i else .error (.notInteger n.text)

/-- What is read from a text: the id is still a literal. -/
structure Draft where
  id : Option Json.Numeral
  name : String
  email : Option String

/-- The literal in a text that is a number and nothing else. -/
def numeralOf? (s : String) : Option Json.Numeral :=
  match Json.readWhole s.toList with
  | some (.num n) => if n.text = s then some n else none
  | _ => none

/-- One member of the id. A text may stand for a number; one that does not ends the reading. -/
def readId (old : Option Json.Numeral × Bool) (v : Json) :
    Except Refusal (Option Json.Numeral × Bool) :=
  match v with
  | .null => .ok old
  | .num n => .ok (some n, old.2)
  | .str s =>
    match numeralOf? s with
    | some n => .ok (some n, old.2)
    | none => .error (.notNumber ("\"" ++ s ++ "\""))
  | _ => .ok (old.1, false)

/-- Reads the members of a document. -/
def readDraft (members : List (String × Json)) : Except Refusal Draft :=
  match (Json.fieldsNamed members "id").foldlM readId (none, true) with
  | .error r => .error r
  | .ok (id, idFits) =>
    let name := Json.readField Json.readText "" (Json.fieldsNamed members "name")
    let email := Json.readField Json.readOptional none (Json.fieldsNamed members "email")
    if idFits && name.fits && email.fits then .ok ⟨id, name.value, email.value⟩
    else .error .malformed

/-- The account in a text. -/
def deserialize (text : List Char) : Except Refusal Account := do
  match Validation.validate accountEntity.name accountEntity.schema.toList text with
  | .error r => throw (.rejected r)
  | .ok _ =>
    match Json.readWhole text with
    | some (.obj members) =>
      let draft ← readDraft members
      match draft.id with
      | none => throw .malformed
      | some n => return ⟨← integral n, draft.name, draft.email⟩
    | _ => throw .malformed

/-- The text of an account. -/
def serialize (a : Account) : String := a.json.compact

/-- The greeting of an account. -/
def greet (a : Account) : String := "Hello, " ++ a.name

/-- The farewell of an account. -/
def farewell (a : Account) : String := "Goodbye, " ++ a.name

/-- The plain user with the properties of an account. -/
def toUser (a : Account) : User := ⟨a.id, a.name, a.email⟩

/-- The address of an account, empty if there is none, and whether there is one. -/
def contactEmail (a : Account) : String × Bool := a.toUser.contactEmail

/-- The account after an attempt to read a text. -/
def after (a : Account) (text : List Char) : Account :=
  match deserialize text with
  | .ok b => b
  | .error _ => a

end Account

end SchemaKit
