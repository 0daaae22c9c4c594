import SchemaKit.Validation.Keyword

/-!
# Scopes and references

An identifier in a schema changes the base for the references below it. Before a schema is read,
every reference is made absolute, and every part with an identifier is entered in a directory.

## Main definitions

* `Directory` — the parts of a schema document by identifier; the whole document is there under the
  empty one.
* `Directory.ofDocument` — makes references absolute and collects the parts with identifiers.
* `Directory.find` — what a reference leads to.
-/

namespace SchemaKit.Validation

/-- Parts of a schema document by identifier. -/
abbrev Directory := List (String × Json)

/-- The identifiers seen so far, and the parts they name. -/
structure Names where
  taken : List String
  parts : Directory

/-- Values that are data and hold no references. -/
def isData (name : String) : Bool := name == "const" || name == "enum"

/-- Values that map names to schemas, and are no schemas themselves. -/
def isNameMap (name : String) : Bool :=
  name == "properties" || name == "dependencies" || name == "patternProperties"

/-- The identifier that an object declares: an `id` of any kind goes before `$id`. -/
def declaredId? (members : List (String × Json)) : Option String :=
  match Json.last? members "id", Json.last? members "$id" with
  | some (.str s), _ => some s
  | some _, _ => none
  | none, some (.str s) => some s
  | none, _ => none

/-- A reference seen from a base, whose own fragment does not count. -/
def inherits? (base : Uri) (reference : String) : Option Uri :=
  match Uri.parse reference with
  | .ok r => (Uri.parse ({ base with fragment := [] }.resolve r).text).toOption
  | .error _ => none

/-- What an object's identifier does: the base below it, and the identifier to enter. -/
def scopeOf (base : Uri) (members : List (String × Json)) : Uri × Option String :=
  match (declaredId? members).bind (inherits? base) with
  | some local_ => (local_, some local_.text)
  | none => (base, none)

/-- The value of a reference, made absolute. -/
def absolute (base : Uri) (v : Json) : Json :=
  match v with
  | .str s => .str (((inherits? base s).map Uri.text).getD s)
  | v => v

mutual

/-- Makes the references below a value absolute and collects identifiers. -/
def locate (base : Uri) : Json → Names → Json × Names
  | .arr items, names =>
    let (items, names) := locateItems base items names
    (.arr items, names)
  | .obj members, names =>
    let (scope, id?) := scopeOf base members
    match id? with
    | none =>
      let (members, names) := locateMembers scope members names
      (.obj members, names)
    | some id =>
      if names.taken.contains id then (.obj members, names)
      else
        let (located, names) := locateMembers scope members { names with taken := id :: names.taken }
        (.obj located, { names with parts := (id, .obj located) :: names.parts })
  | v, names => (v, names)

/-- Item by item. -/
def locateItems (base : Uri) : List Json → Names → List Json × Names
  | [], names => ([], names)
  | v :: rest, names =>
    let (v, names) := locate base v names
    let (rest, names) := locateItems base rest names
    (v :: rest, names)

/-- Member by member. -/
def locateMembers (base : Uri) : List (String × Json) → Names → List (String × Json) × Names
  | [], names => ([], names)
  | (k, v) :: rest, names =>
    let (v, names) :=
      if isData k then (v, names)
      else if isNameMap k then locateMap base v names
      else
        let (v, names) := locate base v names
        (if k == "$ref" then absolute base v else v, names)
    let (rest, names) := locateMembers base rest names
    ((k, v) :: rest, names)

/-- A map from names to schemas. -/
def locateMap (base : Uri) : Json → Names → Json × Names
  | .obj children, names =>
    let (children, names) := locateChildren base children names
    (.obj children, names)
  | v, names => (v, names)

/-- The schemas of a name map. -/
def locateChildren (base : Uri) : List (String × Json) → Names → List (String × Json) × Names
  | [], names => ([], names)
  | (k, v) :: rest, names =>
    let (v, names) := locate base v names
    let (rest, names) := locateChildren base rest names
    ((k, v) :: rest, names)

end

/-- Makes references absolute and collects the parts with identifiers. -/
def Directory.ofDocument (doc : Json) : Json × Directory :=
  let (doc, names) := locate .empty doc ⟨[], []⟩
  (doc, ("", doc) :: names.parts)

/-- Identifiers that could be fetched: those with a host, or absolute paths in the file scheme. -/
def isAbsolute (u : Uri) : Bool :=
  if u.scheme = "file".toList then u.path.head? == some '/'
  else !u.scheme.isEmpty && !u.host.isEmpty

/-- What a reference leads to. -/
def Directory.find (d : Directory) (reference : Uri) : Except Defect Json :=
  match Json.lookup? d reference.text with
  | some v => .ok v
  | none =>
    match Json.lookup? d { reference with fragment := [] }.text with
    | some v =>
      (Json.Pointer.find v (Json.Pointer.parse reference.fragmentText.toList)).mapError .pointer
    | none =>
      if isAbsolute reference then .error (.outOfReach reference.text)
      else .error (.notAbsolute reference.text)

end SchemaKit.Validation
