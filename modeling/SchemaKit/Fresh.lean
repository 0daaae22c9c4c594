import SchemaKit.Users.Account

/-!
# Fresh values

A fresh value of a type starts out blank. If the values of the type can be filled from documents, it is
filled from the example of its entity, which has to succeed.

## Main definitions

* `Fillable` — an entity whose values are filled from documents.
* `fresh` — a fresh value.
* `User.fillable`, `Account.fillable` — the fillable entities of this library.
-/

namespace SchemaKit

/-- An entity whose values are filled from documents. What goes wrong is told in words. -/
structure Fillable (α : Type) where
  entity : Entity
  fill : α → List Char → Except String α

/-- A fresh value: the blank one, filled from the example of its entity if it can be filled. An example
that does not fit is a mistake of the entity. -/
def fresh {α : Type} (blank : α) : Option (Fillable α) → Except String α
  | none => .ok blank
  | some f =>
    match f.fill blank f.entity.example_.toList with
    | .ok a => .ok a
    | .error cause => .error ("model.New: example for " ++ f.entity.name ++ ": " ++ cause)

/-- Users are filled by reading over what they were. The reader's own words are left out. -/
def User.fillable : Fillable User where
  entity := userEntity
  fill u text :=
    let read := u.readText text
    if read.fits then .ok read.value else .error "<cause>"

/-- A fresh user is the one of the example. -/
example : fresh User.blank (some User.fillable) = .ok ⟨42, "Ann", some "ann@example.com"⟩ := rfl

/-- Accounts are filled from texts that are valid. -/
def Account.fillable : Fillable Account where
  entity := accountEntity
  fill _ text :=
    match Account.deserialize text with
    | .ok a => .ok a
    | .error r => .error r.message

end SchemaKit
