import SchemaKit.Json.Canonical
import SchemaKit.Users.Basic
import SchemaKit.Users.Role

/-!
# Outcomes

An outcome is a value or an error, with a document form that says which of the two it is.

## Main definitions

* `Outcome` — a value or an error.
* `Codec` — how values of a type are written to and read from documents.
* `Outcome.codec` — the document form of outcomes, given the forms of values and errors.
* `Codec.int`, `text`, `user`, `role`, `any` — forms of plain values.
-/

namespace SchemaKit

/-- A value or an error. -/
inductive Outcome (α ε : Type) where
  | ok (value : α)
  | fail (error : ε)
  deriving DecidableEq, Repr

/-- What is wrong with the form of an outcome. -/
inductive Misfit where
  | noFlag
  | okNeedsValue
  | failNeedsError
  deriving DecidableEq, Repr

/-- The wording about a form. -/
def Misfit.message : Misfit → String
  | noFlag => "missing ok flag"
  | okNeedsValue => "ok result must carry only a value"
  | failNeedsError => "failed result must carry only an error"

/-- Why a document cannot be read. -/
inductive ReadFault where
  | malformed
  | role (r : UnknownRole)
  | misfit (m : Misfit)
  | inside (part : String) (fault : ReadFault)
  deriving DecidableEq, Repr

namespace ReadFault

/-- The wording of a fault. The reader's own words are left out. -/
def message : ReadFault → String
  | malformed => "<cause>"
  | role r => r.message
  | misfit s => "malformed result: " ++ s.message
  | inside part fault => part ++ ": " ++ fault.message

/-- The innermost fault. -/
def root : ReadFault → ReadFault
  | inside _ fault => fault.root
  | fault => fault

end ReadFault

/-- How values of a type are written and read. Reading starts from a blank value. -/
structure Codec (α : Type) where
  blank : α
  write : α → Except UnknownRole Json
  read : Json → Except ReadFault α

namespace Codec

/-- Reading that does not fit is malformed. -/
def ofProgress {α : Type} (p : Json.Progress α) : Except ReadFault α :=
  if p.fits then .ok p.value else .error .malformed

/-- Integers in the 64-bit range. -/
def int : Codec Int := ⟨0, fun i => .ok (.int i), fun v => ofProgress (Json.readInt 0 v)⟩

/-- Texts. -/
def text : Codec String := ⟨"", fun s => .ok (.str s), fun v => ofProgress (Json.readText "" v)⟩

/-- Users. -/
def user : Codec User := ⟨.blank, fun u => .ok u.json, fun v => ofProgress (User.blank.read v)⟩

/-- Roles. Only known ones can be written or read; null leaves the empty tag. -/
def role : Codec Role where
  blank := .ofText ""
  write r := r.write.map .str
  read v :=
    match v with
    | .null => .ok (.ofText "")
    | .str s => (Role.parse (Text.piecesOf s)).mapError .role
    | _ => .error .malformed

/-- Any document, in canonical form. -/
def any : Codec Json where
  blank := .null
  write v := .ok v
  read v :=
    match Json.canonical? v with
    | some w => .ok w
    | none => .error .malformed

end Codec

namespace Outcome

variable {α ε : Type}

/-- Whether there is a value. -/
def isOk : Outcome α ε → Bool
  | ok _ => true
  | fail _ => false

/-- The value, if there is one. -/
def value? : Outcome α ε → Option α
  | ok a => some a
  | fail _ => none

/-- The error, if there is one. -/
def error? : Outcome α ε → Option ε
  | ok _ => none
  | fail e => some e

/-- The members of an outcome's document. A member that holds null is present. -/
structure Members where
  flag : Option Bool
  value : Option Json
  error : Option Json

/-- Null clears the flag. -/
def readFlag (old : Option Bool) (v : Json) : Json.Progress (Option Bool) :=
  match v with
  | .null => ⟨none, true⟩
  | .bool b => ⟨some b, true⟩
  | _ => ⟨some (old.getD false), false⟩

/-- The members of a document, each by its last occurrence. -/
def members? (doc : Json) : Option Members :=
  match doc with
  | .null => some ⟨none, none, none⟩
  | .obj ms =>
    let flag := Json.readField readFlag none (Json.fieldsNamed ms "ok")
    if flag.fits then
      some ⟨flag.value, (Json.fieldsNamed ms "value").getLast?,
        (Json.fieldsNamed ms "error").getLast?⟩
    else none
  | _ => none

/-- Reads an outcome. -/
def read (value : Codec α) (error : Codec ε) (doc : Json) : Except ReadFault (Outcome α ε) :=
  match members? doc with
  | none => .error (.inside "result" .malformed)
  | some ⟨none, _, _⟩ => .error (.misfit .noFlag)
  | some ⟨some true, some v, none⟩ =>
    match value.read v with
    | .ok a => .ok (.ok a)
    | .error f => .error (.inside "result value" f)
  | some ⟨some true, _, _⟩ => .error (.misfit .okNeedsValue)
  | some ⟨some false, none, some e⟩ =>
    match error.read e with
    | .ok a => .ok (.fail a)
    | .error f => .error (.inside "result error" f)
  | some ⟨some false, _, _⟩ => .error (.misfit .failNeedsError)

/-- Writes an outcome. -/
def write (value : Codec α) (error : Codec ε) : Outcome α ε → Except UnknownRole Json
  | ok a => (value.write a).map fun v => .obj [("ok", .bool true), ("value", v)]
  | fail e => (error.write e).map fun v => .obj [("ok", .bool false), ("error", v)]

/-- The document form of outcomes. A blank outcome is a blank error. -/
def codec (value : Codec α) (error : Codec ε) : Codec (Outcome α ε) :=
  ⟨.fail error.blank, write value error, read value error⟩

/-- Reads an outcome from a text. -/
def readText (value : Codec α) (error : Codec ε) (text : List Char) :
    Except ReadFault (Outcome α ε) :=
  match Json.readWhole text with
  | none => .error (.inside "result" .malformed)
  | some doc => read value error doc

/-- The outcome after an attempt to read a text: a failed attempt changes nothing. -/
def after (value : Codec α) (error : Codec ε) (r : Outcome α ε) (text : List Char) : Outcome α ε :=
  match readText value error text with
  | .ok r => r
  | .error _ => r

/-- The wording about an outcome that cannot be written. -/
def writeMessage (u : UnknownRole) : String := "result: <marshal>: " ++ u.message

end Outcome

end SchemaKit
