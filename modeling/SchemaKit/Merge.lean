import SchemaKit.Json.Canonical
import SchemaKit.Json.Record

/-!
# Merging documents

Fragments of object schemas are merged into one schema: the union of their properties and of their
required names. Example documents are laid over each other.

## Main definitions

* `Strategy` — what happens where two fragments declare the same property.
* `Fragment` — what a merge takes from a schema document.
* `Fragment.read?` — reads a fragment from a document.
* `addProperties` — properties added to those that are there.
* `schemas`, `examples` — merged texts.
-/

namespace SchemaKit.Merge

/-- What happens where two fragments declare the same property. -/
inductive Strategy where
  | overwrite
  | refuse
  | keep
  deriving DecidableEq, Repr

/-- The strategy with a number; numbers without one overwrite. -/
def Strategy.ofCode (code : Int) : Strategy :=
  if code = 1 then .refuse else if code = 2 then .keep else .overwrite

/-- Properties by name, in ascending order. -/
abbrev Entries := List (String × Json)

/-- What a merge takes from a schema document. -/
structure Fragment where
  properties : Entries
  required : List String

/-- What can be wrong with a merge. The position is that of the document. -/
inductive Fault where
  | unreadableSchema (position : Nat)
  | unreadableExample (position : Nat)
  | duplicate (name : String)
  deriving DecidableEq, Repr

/-- The wording of a fault. The reader's own words are left out. -/
def Fault.message : Fault → String
  | unreadableSchema i => "failed to unmarshal schema " ++ Decimal.text i ++ ": <cause>"
  | unreadableExample i => "failed to unmarshal example " ++ Decimal.text i ++ ": <cause>"
  | duplicate name => "duplicate property found: " ++ name

/-! ## Reading fragments -/

/-- The entries of an object with canonical values, put over earlier entries. -/
def overlay? (old : Entries) : List (String × Json) → Option Entries
  | [] => some old
  | (k, v) :: rest =>
    match Json.canonical? v with
    | some w => overlay? (Json.insertSorted k w old) rest
    | none => none

/-- Null clears the properties, an object adds to them. -/
def readProperties (old : Entries) (v : Json) : Option Entries :=
  match v with
  | .null => some []
  | .obj members => overlay? old members
  | _ => none

/-- Names in a list. Null leaves the name that stood at its place before. -/
def readNames : (old : List String) → List Json → Option (List String)
  | _, [] => some []
  | old, v :: rest =>
    let name? := match v with
      | .str s => some s
      | .null => some (old.head?.getD "")
      | _ => none
    match name?, readNames old.tail rest with
    | some name, some names => some (name :: names)
    | _, _ => none

/-- The required names, and those that an earlier list left at the places behind them. -/
structure Required where
  names : List String
  behind : List String

/-- Null or an empty list clears the required names, another list replaces them. -/
def readRequired (old : Required) (v : Json) : Option Required :=
  match v with
  | .null => some ⟨[], []⟩
  | .arr [] => some ⟨[], []⟩
  | .arr items =>
    let places := old.names ++ old.behind
    (readNames places items).map fun names => ⟨names, places.drop names.length⟩
  | _ => none

/-- Reads a fragment. The document null is an empty one. -/
def Fragment.read? (doc : Json) : Option Fragment :=
  match doc with
  | .null => some ⟨[], []⟩
  | .obj members =>
    match (Json.fieldsNamed members "properties").foldlM readProperties [],
        (Json.fieldsNamed members "required").foldlM readRequired ⟨[], []⟩ with
    | some properties, some required => some ⟨properties, required.names⟩
    | _, _ => none
  | _ => none

/-! ## Merging schemas -/

/-- Adds one property. -/
def addProperty (s : Strategy) (acc : Entries) (entry : String × Json) : Except Fault Entries :=
  if (Json.lookup? acc entry.1).isSome then
    match s with
    | .overwrite => .ok (Json.insertSorted entry.1 entry.2 acc)
    | .refuse => .error (.duplicate entry.1)
    | .keep => .ok acc
  else .ok (Json.insertSorted entry.1 entry.2 acc)

/-- Adds properties in their order. -/
def addProperties (s : Strategy) : Entries → List (String × Json) → Except Fault Entries
  | acc, [] => .ok acc
  | acc, e :: rest =>
    match addProperty s acc e with
    | .ok acc => addProperties s acc rest
    | .error f => .error f

/-- Puts a name into an ascending list without repetitions. -/
def insertName (name : String) : List String → List String
  | [] => [name]
  | n :: rest =>
    if name < n then name :: n :: rest
    else if name = n then n :: rest
    else n :: insertName name rest

/-- All required names, ascending and each once. -/
def requiredOf (fs : List Fragment) : List String :=
  (fs.flatMap (·.required)).foldl (fun acc n => insertName n acc) []

/-- The merged schema. A strict one admits no further members. -/
def mergedSchema (strict : Bool) (properties : Entries) (required : List String) : Json :=
  .obj ((if strict then [("additionalProperties", Json.bool false)] else []) ++
    [("properties", .obj properties)] ++
    (if required.isEmpty then [] else [("required", .arr (required.map .str))]) ++
    [("type", .str "object")])

/-- Texts are read and added one after the other, so a repeated property is reported before an
unreadable text behind it. -/
def mergeTexts (s : Strategy) (i : Nat) (acc : Entries) (seen : List Fragment) :
    List (List Char) → Except Fault (Entries × List Fragment)
  | [] => .ok (acc, seen)
  | text :: rest =>
    match (Json.readWhole text).bind Fragment.read? with
    | none => .error (.unreadableSchema i)
    | some f =>
      match addProperties s acc f.properties with
      | .error e => .error e
      | .ok acc => mergeTexts s (i + 1) acc (seen ++ [f]) rest

/-- Merges schema texts. -/
def schemas (s : Strategy) (strict : Bool) (texts : List (List Char)) : Except Fault Json :=
  if texts.isEmpty then .ok (.obj [])
  else
    match mergeTexts s 0 [] [] texts with
    | .error e => .error e
    | .ok (properties, fragments) => .ok (mergedSchema strict properties (requiredOf fragments))

/-! ## Merging examples -/

/-- Lays example documents over each other; null adds nothing. -/
def overlayTexts (i : Nat) (acc : Entries) : List (List Char) → Except Fault Entries
  | [] => .ok acc
  | text :: rest =>
    match Json.readWhole text with
    | some .null => overlayTexts (i + 1) acc rest
    | some (.obj members) =>
      match overlay? acc members with
      | some acc => overlayTexts (i + 1) acc rest
      | none => .error (.unreadableExample i)
    | _ => .error (.unreadableExample i)

/-- Merges example texts, later members winning. -/
def examples (texts : List (List Char)) : Except Fault Json :=
  (overlayTexts 0 [] texts).map .obj

end SchemaKit.Merge
