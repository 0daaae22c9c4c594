import SchemaKit.Json.Numeral

/-!
# JSON values

## Main definitions

* `Json` — a JSON value. Numbers are kept as literals and objects as lists of members in the order
  of the text, repeated names included.
* `Json.last?` — the member that a name selects: of repeated names the last one.
* `insertSorted`, `sortLast` — association lists in ascending order of their keys.
* `Json.settle` — a value whose objects name each member once, in ascending order.
* `Json.depth` — how deep containers are nested.
-/

namespace SchemaKit

/-- A JSON value. -/
inductive Json where
  | null
  | bool (b : Bool)
  | num (n : Json.Numeral)
  | str (s : String)
  | arr (items : List Json)
  | obj (members : List (String × Json))
  deriving Repr, Inhabited

namespace Json

/-- A JSON integer. -/
def int (i : Int) : Json := .num (.ofInt i)

/-- The value of the last member with this name. -/
def last? (members : List (String × Json)) (name : String) : Option Json :=
  (members.reverse.find? (·.1 == name)).map (·.2)

/-- The value of the last member with this name, in an object. -/
def get? (v : Json) (name : String) : Option Json :=
  match v with
  | .obj ms => last? ms name
  | _ => none

/-! ## Association lists in key order -/

section Sorted

variable {α : Type}

/-- Puts a key into a list that ascends by key, replacing an entry that is there. -/
def insertSorted (k : String) (v : α) : List (String × α) → List (String × α)
  | [] => [(k, v)]
  | (k', v') :: rest =>
    if k < k' then (k, v) :: (k', v') :: rest
    else if k = k' then (k, v) :: rest
    else (k', v') :: insertSorted k v rest

/-- Entries in ascending order of their keys; of repeated keys the last entry counts. -/
def sortLast (entries : List (String × α)) : List (String × α) :=
  entries.foldl (fun acc e => insertSorted e.1 e.2 acc) []

/-- The entry of a key. -/
def lookup? (entries : List (String × α)) (k : String) : Option α :=
  (entries.find? (·.1 == k)).map (·.2)

end Sorted

/-! ## Whole values -/

/-- To show something of a value, it may be assumed of its items and of the values of its
members.

**Proof sketch.** By recursion on the size of the value. The items of an array and the values of an
object's members are smaller than the whole. -/
@[elab_as_elim]
theorem induction {motive : Json → Prop} (null : motive .null) (bool : ∀ b, motive (.bool b))
    (num : ∀ n, motive (.num n)) (str : ∀ s, motive (.str s))
    (arr : ∀ items, (∀ v ∈ items, motive v) → motive (.arr items))
    (obj : ∀ members, (∀ m ∈ members, motive m.2) → motive (.obj members)) (v : Json) :
    motive v :=
  match v with
  | .null => null
  | .bool b => bool b
  | .num n => num n
  | .str s => str s
  | .arr items => arr items fun v _ => induction null bool num str arr obj v
  | .obj members => obj members fun m hm =>
    have : sizeOf m.2 < sizeOf members := by
      have hlt := List.sizeOf_lt_of_mem hm
      obtain ⟨k, v⟩ := m
      simp only [Prod.mk.sizeOf_spec] at hlt ⊢
      omega
    induction null bool num str arr obj m.2

/-- Objects with each name once and in ascending order; of repeated names the last one counts. -/
def settle : Json → Json
  | .arr items => .arr (settleItems items)
  | .obj members => .obj (sortLast (settleMembers members))
  | v => v
where
  /-- Item by item. -/
  settleItems : List Json → List Json
    | [] => []
    | v :: rest => settle v :: settleItems rest
  /-- Member by member. -/
  settleMembers : List (String × Json) → List (String × Json)
    | [] => []
    | (k, v) :: rest => (k, settle v) :: settleMembers rest

/-- How many containers lie around the innermost value. -/
def depth : Json → Nat
  | .arr items => depthItems items + 1
  | .obj members => depthMembers members + 1
  | _ => 0
where
  /-- The largest depth of an item. -/
  depthItems : List Json → Nat
    | [] => 0
    | v :: rest => max (depth v) (depthItems rest)
  /-- The largest depth of a member. -/
  depthMembers : List (String × Json) → Nat
    | [] => 0
    | (_, v) :: rest => max (depth v) (depthMembers rest)

end Json

end SchemaKit
