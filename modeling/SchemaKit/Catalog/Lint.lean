import SchemaKit.Catalog.Basic

/-!
# Lint

Schemas in a document are looked over for enumerations that cannot be meant: values that occur twice, and
values that are not of the kind that the schema asks for. These are two rules of the recommended set. The
others are not about schemas, or cannot be broken by a document that is made from schemas only, and so they
are left out. Findings carry the column in the one line of the document.

## Main definitions

* `Rule`, `Finding` — what was found, and where.
* `Role` — what a value in a document is: a schema, schemas, or data.
* `Lint.findings` — all findings in a document.
-/

namespace SchemaKit.Lint

open Validation (Kind)

/-- What can be wrong with an enumeration. -/
inductive Rule where
  | duplicate (value : String)
  | mistyped (value : String) (given expected : Kind)
  deriving DecidableEq, Repr

/-- The name by which a rule can be ignored. -/
def Rule.name : Rule → String
  | duplicate _ => "duplicated-entry-in-enum"
  | mistyped _ _ _ => "typed-enum"

/-- The wording of a finding. -/
def Rule.message : Rule → String
  | duplicate v => "enum contains a duplicate: `" ++ v ++ "`"
  | mistyped v given expected =>
    "enum type mismatch: enum value '" ++ v ++ "' is a " ++ given.name ++
      ", but it's defined as a '" ++ expected.name ++ "'"

/-- What was found in which column. -/
structure Finding where
  column : Nat
  rule : Rule
  deriving DecidableEq, Repr

/-- A finding as a line. -/
def Finding.text (f : Finding) : String :=
  "[1:" ++ Decimal.text f.column ++ "] " ++ f.rule.name ++ ": " ++ f.rule.message

/-! ## Enumerations -/

/-- A value without quotes. -/
def plain : Json → String
  | .str s => s
  | v => v.compact

/-- The values that occur before, one for each further occurrence. -/
def duplicates (seen : List String) : List String → List String
  | [] => []
  | v :: rest => if seen.contains v then v :: duplicates seen rest else duplicates (v :: seen) rest

/-- The values that are not of a kind. -/
def mistyped (k : Kind) (vs : List Json) : List Rule :=
  (vs.filter fun v => !k.admits (Kind.of v)).map fun v => .mistyped (plain v) (Kind.of v) k

/-- The kind that a schema asks for, if it is a single one. -/
def kindOf? (members : List (String × Json)) : Option Kind :=
  match Json.last? members "type" with
  | some (.str name) => Kind.ofName? name
  | _ => none

/-- The findings about an enumeration: duplicates at its name, values of a wrong kind at its values. -/
def enumFindings (members : List (String × Json)) (vs : List Json) (column : Nat) : List Finding :=
  (duplicates [] (vs.map plain)).map (fun v => ⟨column, .duplicate v⟩) ++
    (match kindOf? members with
      | some k => (mistyped k vs).map fun r => ⟨column + "\"enum\":".length, r⟩
      | none => [])

/-! ## Documents -/

/-- What a value in a document is. -/
inductive Role where
  | schema
  | schemas
  | data
  deriving DecidableEq, Repr

/-- What the member of a schema is. -/
def memberRole (name : String) : Role :=
  match Schema.Key.ofName? name with
  | none => .data
  | some k =>
    match k.form with
    | .one | .items => .schema
    | .list | .named | .dependent => .schemas
    | _ => .data

/-- What the members or items of a value with a role are. -/
def Role.inner (r : Role) (name : String) : Role :=
  match r with
  | .schema => memberRole name
  | .schemas => .schema
  | .data => .data

/-- The findings about one member of a schema. -/
def memberFindings (r : Role) (all : List (String × Json)) (name : String) (v : Json) (column : Nat) :
    List Finding :=
  match r, v with
  | .schema, .arr vs => if name = "enum" then enumFindings all vs column else []
  | _, _ => []

mutual

/-- The findings in a value that starts in a column. -/
def scan (r : Role) (column : Nat) : Json → List Finding
  | .arr items => scanItems r (column + 1) items
  | .obj members => scanMembers r members (column + 1) members
  | _ => []

/-- Item by item. The items of a list at the place of a schema are schemas. -/
def scanItems (r : Role) (column : Nat) : List Json → List Finding
  | [] => []
  | v :: rest =>
    scan (if r = .data then .data else .schema) column v ++
      scanItems r (column + v.compact.length + 1) rest

/-- Member by member. -/
def scanMembers (r : Role) (all : List (String × Json)) (column : Nat) :
    List (String × Json) → List Finding
  | [] => []
  | (name, v) :: rest =>
    let start := column + (Json.str name).compact.length + 1
    memberFindings r all name v column ++ scan (r.inner name) start v ++
      scanMembers r all (start + v.compact.length + 1) rest

end

/-- The findings of a document whose schemas stand as the value of a member, `column` columns into the
document. Ignored rules have none. -/
def findings (ignored : List String) (column : Nat) (schemas : Json) : List Finding :=
  (scan .schemas column schemas).filter fun f => !ignored.contains f.rule.name

end SchemaKit.Lint
