import SchemaKit.Users.Basic

/-!
# Users by key

## Main definitions

* `UserIndex` — users by key, in ascending order of the keys.
* `UserIndex.set`, `put`, `delete`, `lookup` — operations. `put` takes the id as key; `set` takes any.
* `UserIndex.mismatched` — the keys that are not the id of their user.
-/

namespace SchemaKit

/-- Users by key, in ascending order of the keys. -/
structure UserIndex where
  entries : List (Int × User)
  deriving DecidableEq, Repr

namespace UserIndex

/-- No users. -/
def empty : UserIndex := ⟨[]⟩

/-- Puts an entry in its place, over one with the same key. -/
def insert (key : Int) (u : User) : List (Int × User) → List (Int × User)
  | [] => [(key, u)]
  | (k, v) :: rest =>
    if key < k then (key, u) :: (k, v) :: rest
    else if key = k then (key, u) :: rest
    else (k, v) :: insert key u rest

/-- Stores a user under a key. -/
def set (m : UserIndex) (key : Int) (u : User) : UserIndex := ⟨insert key u m.entries⟩

/-- Stores a user under its id. -/
def put (m : UserIndex) (u : User) : UserIndex := m.set u.id u

/-- Removes a key. -/
def delete (m : UserIndex) (key : Int) : UserIndex := ⟨m.entries.filter (fun e => e.1 != key)⟩

/-- The user under a key. -/
def lookup (m : UserIndex) (key : Int) : Option User :=
  (m.entries.find? (fun e => e.1 == key)).map (·.2)

/-- Users by id; of equal ids the last user stays. -/
def ofList (users : List User) : UserIndex := users.foldl put empty

/-- The keys that are not the id of their user. -/
def mismatched (m : UserIndex) : List Int :=
  (m.entries.filter fun e => e.1 != e.2.id).map (·.1)

end UserIndex

end SchemaKit
