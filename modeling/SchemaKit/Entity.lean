import SchemaKit.Merge
import SchemaKit.Users.Basic

/-!
# Entities

An entity is a kind of document with a name, the text of a schema and an example.

## Main definitions

* `Entity` — name, schema and example.
* `userSchema` — the schema of users, merged from an identity and a profile.
* `userEntity`, `accountEntity`, `roleEntity` — the entities of this library.
-/

namespace SchemaKit

/-- A kind of document. -/
structure Entity where
  name : String
  schema : String
  example_ : String
  deriving DecidableEq, Repr

/-- A user has an id. -/
def identitySchema : String :=
  "\x7b\"type\":\"object\",\"properties\":\x7b\"id\":\x7b\"type\":\"integer\"\x7d\x7d," ++
    "\"required\":[\"id\"]\x7d"

/-- A user has a name and may have an address. -/
def profileSchema : String :=
  "\x7b\"type\":\"object\",\"properties\":\x7b\"name\":\x7b\"type\":\"string\"\x7d," ++
    "\"email\":\x7b\"type\":[\"string\",\"null\"]\x7d\x7d,\"required\":[\"name\"]\x7d"

/-- The schema of users as a document. -/
def userSchemaDocument : Json :=
  match Merge.schemas .refuse true [identitySchema.toList, profileSchema.toList] with
  | .ok doc => doc
  | .error _ => .null

/-- The schema of users. -/
def userSchema : String := userSchemaDocument.indented

/-- Users. -/
def userEntity : Entity :=
  ⟨"User", userSchema,
    "\x7b\n\t\t\"id\": 42,\n\t\t\"name\": \"Ann\",\n\t\t\"email\": \"ann@example.com\"\n\t\x7d"⟩

/-- Accounts, which have the same form as users. -/
def accountEntity : Entity :=
  ⟨"UserImpl", userSchema, "\x7b\n\t\t\"id\": 1,\n\t\t\"name\": \"Ann\"\n\t\x7d"⟩

/-- Roles. -/
def roleEntity : Entity :=
  ⟨"UserRole",
    "\x7b\n\t\t\"type\": \"string\",\n\t\t\"enum\": [\"admin\", \"editor\", \"viewer\"]\n\t\x7d",
    "\"viewer\""⟩

end SchemaKit
