import SchemaKit.Json.Printer
import SchemaKit.Json.Record

/-!
# Users

## Main definitions

* `User` — a user record with an optional email address.
* `User.newId`, `User.create` — new users.
* `User.contactEmail` — the address of a user.
* `User.json` — the document of a user.
* `User.read` — updates a user from a document.
* `findById` — the first of several records with an id.
* `isEmail` — a rough check of email addresses.
-/

namespace SchemaKit

/-- A user. The id lies in the signed 64-bit range. -/
structure User where
  id : Int
  name : String
  email : Option String
  deriving DecidableEq, Repr

/-- The user without properties. -/
def User.blank : User := ⟨0, "", none⟩

/-- How often an operation is tried again. -/
def maxRetries : Nat := 3

/-- The name of a user who gives none. -/
def defaultName : String := "Anonymous"

/-- New ids lie below this bound. -/
def maxUserId : Nat := 10000

namespace User

/-- A user with an email address. -/
def withEmail (u : User) (email : String) : User := { u with email := some email }

/-- The id that a random number gives to a new user. -/
def newId (random : Nat) : Int := random % maxUserId

/-- Whether an id is one that new users get. -/
def isNewId (id : Int) : Bool := 0 ≤ id && id < maxUserId

/-- New users get ids below the bound. -/
theorem isNewId_newId (random : Nat) : isNewId (newId random) = true := by
  have hpos : (0 : Int) < maxUserId := by decide
  have hlow : 0 ≤ (random : Int) % maxUserId := Int.emod_nonneg _ (by decide)
  have hhigh : (random : Int) % maxUserId < maxUserId := Int.emod_lt_of_pos _ hpos
  simp [isNewId, newId, hlow, hhigh]

/-- A new user; of several addresses the last one counts. -/
def create (id : Int) (name : String) (emails : List String) : User :=
  emails.foldl withEmail ⟨id, name, none⟩

/-- The address of a user, empty if there is none, and whether there is one. -/
def contactEmail (u : User) : String × Bool := (u.email.getD "", u.email.isSome)

/-- The document of a user. An absent address is left out. -/
def json (u : User) : Json :=
  .obj ([("id", .int u.id), ("name", .str u.name)] ++
    (u.email.map fun e => ("email", Json.str e)).toList)

/-- Reads the members of a document over a user. -/
def readMembers (u : User) (members : List (String × Json)) : Json.Progress User :=
  let id := Json.readField Json.readInt u.id (Json.fieldsNamed members "id")
  let name := Json.readField Json.readText u.name (Json.fieldsNamed members "name")
  let email := Json.readField Json.readOptional u.email (Json.fieldsNamed members "email")
  ⟨⟨id.value, name.value, email.value⟩, id.fits && name.fits && email.fits⟩

/-- Reads a document over a user. Null changes nothing; a member that does not fit leaves its field
and spoils the reading. -/
def read (u : User) (doc : Json) : Json.Progress User :=
  match doc with
  | .null => ⟨u, true⟩
  | .obj members => u.readMembers members
  | _ => ⟨u, false⟩

/-- Reads a text over a user. -/
def readText (u : User) (text : List Char) : Json.Progress User :=
  match Json.readWhole text with
  | some doc => u.read doc
  | none => ⟨u, false⟩

end User

/-- The first item with an id. -/
def findById {α : Type} (idOf : α → Int) (items : List α) (id : Int) : Option α :=
  items.find? (fun a => idOf a == id)

/-- An address has an at sign and a point somewhere. -/
def isEmail (text : List Char) : Bool := text.contains '@' && text.contains '.'

end SchemaKit
