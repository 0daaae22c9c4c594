import SchemaKit.Json.Canonical
import SchemaKit.Json.Record
import SchemaKit.Schema.Basic

/-!
# Reading schema documents

A document is read over a schema that may already say something: members for the same key are read
one over the other, as the members of a record are. A member that does not have the form of its key
makes the document unreadable.

## Main definitions

* `Schema.readOver` — reads a document over a schema.
* `Schema.read?` — reads a document.
-/

namespace SchemaKit.Schema

/-- The effect of a member on a key with plain data: nothing, removal, or new data. -/
inductive Change where
  | keep
  | remove
  | set (v : Json)

/-- Data for a list: an empty list counts as absent. -/
def Change.ofList (vs : List Json) : Change := if vs.isEmpty then .remove else .set (.arr vs)

/-- The texts of a list; null stands for the empty text. -/
def textItems? : List Json → Option (List Json)
  | [] => some []
  | .str s :: rest => (textItems? rest).map (.str s :: ·)
  | .null :: rest => (textItems? rest).map (.str "" :: ·)
  | _ :: _ => none

/-- The names of known kinds. -/
def kindItems? : List Json → Option (List Json)
  | [] => some []
  | .str s :: rest =>
    if (Validation.Kind.ofName? s).isSome then (kindItems? rest).map (.str s :: ·) else none
  | _ :: _ => none

/-- What a member says about plain data, if it has the right form. -/
def change? (f : Form) (v : Json) : Option Change :=
  match f, v with
  | .anything, v => (Json.canonical? v).map .set
  | .floor, .null => some .keep
  | _, .null => some .remove
  | .text, .str s => some (.set (.str s))
  | .flag, .bool b => some (.set (.bool b))
  | .number, .num n => n.double?.map fun d => .set (.num (.ofDouble d))
  | .count, .num n => n.int64?.map fun i => .set (.int i)
  | .floor, .num n => n.int64?.map fun i => if i = 0 then .remove else .set (.int i)
  | .names, .arr vs => (textItems? vs).map Change.ofList
  | .kinds, .str s => if (Validation.Kind.ofName? s).isSome then some (.set v) else none
  | .kinds, .arr vs => (kindItems? vs).map fun vs => .set (.arr vs)
  | .values, .arr vs => (Json.roundItems? vs).map fun vs => Change.ofList (vs.map Json.settle)
  | _, _ => none

/-- Carries out a change. -/
def apply (s : Schema) (k : Key) : Change → Schema
  | .keep => s
  | .remove => s.drop k
  | .set v => s.put k (.data v)

/-- The members whose names are no keys, each by its last occurrence, put over earlier ones. -/
def readExtra? (old : List (String × Json)) (members : List (String × Json)) :
    Option (List (String × Json)) :=
  (Json.sortLast (members.filter fun m => !Key.isName m.1)).foldlM
    (fun acc m => (Json.canonical? m.2).map fun v => Json.insertSorted m.1 v acc) old

/-- The schema that stood at a place before. -/
def Sub.before : Option Sub → Schema
  | some (.schema s) => s
  | _ => blank

/-- Whether a key's value holds no schemas. -/
def Form.isPlain : Form → Bool
  | .one | .items | .list | .named | .dependent => false
  | _ => true

/-- A list part; an empty one counts as absent. -/
def listPart (ss : List Sub) : Option Part := if ss.isEmpty then none else some (.list ss)

/-- A part by name; an empty one counts as absent. -/
def namedPart (es : List (String × Sub)) : Option Part := if es.isEmpty then none else some (.named es)

/-- Whether a value is null, which removes the part of a key. -/
def isNullValue : Json → Bool
  | .null => true
  | _ => false

/-- Whether a value is an array. -/
def isArray : Json → Bool
  | .arr _ => true
  | _ => false

/-- The names that a dependency lists. -/
def dependencyNames? : Json → Option (List String)
  | .arr vs => (textItems? vs).map namesOf
  | _ => none

mutual

/-- Reads the members of a document over a schema. -/
def readMembers : List (String × Json) → Schema → Option Schema
  | [], s => some s
  | (name, v) :: rest, s =>
    match Key.ofName? name with
    | none => readMembers rest s
    | some k =>
      let next :=
        if k.form.isPlain then (change? k.form v).map (apply s k)
        else if isNullValue v then some (s.drop k)
        else match k.form with
          | .one => (readSub (s.sub? k) v).map fun sub => s.put k (.one sub)
          | .items =>
            if isArray v then (readSubs (s.subs k) v).map fun ss => s.put k (.list ss)
            else (readSub (s.sub? k) v).map fun sub => s.put k (.one sub)
          | .list => (readSubs (s.subs k) v).map fun ss => s.set k (listPart ss)
          | .dependent => (readDependent (s.entries k) v).map fun es => s.set k (namedPart es)
          | _ => (readNamed (s.entries k) v).map fun es => s.set k (namedPart es)
      match next with
      | some s => readMembers rest s
      | none => none

/-- Reads a value for a place where a schema may stand. -/
def readSub (old : Option Sub) : Json → Option Sub
  | .null => some .nothing
  | .bool b => some (.truth b)
  | .obj members =>
    match readMembers members (Sub.before old) with
    | none => none
    | some s => (readExtra? s.extra members).map fun es => .schema (.mk s.parts es)
  | _ => none

/-- Reads a list of schemas over an earlier list. -/
def readSubs (old : List Sub) : Json → Option (List Sub)
  | .arr vs => readItems old vs
  | _ => none

/-- Item by item. -/
def readItems : (old : List Sub) → List Json → Option (List Sub)
  | _, [] => some []
  | old, v :: rest =>
    match readSub old.head? v, readItems old.tail rest with
    | some s, some ss => some (s :: ss)
    | _, _ => none

/-- Reads schemas by name, added to earlier ones. -/
def readNamed (old : List (String × Sub)) : Json → Option (List (String × Sub))
  | .obj members => readEntries old members
  | _ => none

/-- Entry by entry. -/
def readEntries (old : List (String × Sub)) : List (String × Json) → Option (List (String × Sub))
  | [] => some old
  | (name, v) :: rest =>
    match readSub none v with
    | some s => readEntries (Json.insertSorted name s old) rest
    | none => none

/-- Reads dependencies by name. -/
def readDependent (old : List (String × Sub)) : Json → Option (List (String × Sub))
  | .obj members => readDependentEntries old members
  | _ => none

/-- Entry by entry: a list of names, or a schema. -/
def readDependentEntries (old : List (String × Sub)) :
    List (String × Json) → Option (List (String × Sub))
  | [] => some old
  | (name, v) :: rest =>
    let sub? := if isArray v then (dependencyNames? v).map .names else readSub none v
    match sub? with
    | some s => readDependentEntries (Json.insertSorted name s old) rest
    | none => none

end

/-- Reads a document. Null says nothing. -/
def read? (doc : Json) : Option Schema :=
  match doc with
  | .null => some blank
  | .obj _ =>
    match readSub none doc with
    | some (.schema s) => some s
    | _ => none
  | _ => none

/-- Reads a text. -/
def readText? (text : List Char) : Option Schema := (Json.readWhole text).bind read?

end SchemaKit.Schema
