import SchemaKit.Json.Canonical
import SchemaKit.Pattern.Parser
import SchemaKit.Validation.Scope

/-!
# Compiling schemas

A schema document is read into constraints. Members are first put into the order in which keywords
are read; then one pass over the document collects what each keyword says.

## Main definitions

* `Build` — what the keywords of one schema say so far.
* `compile` — the constraint of a schema document; how references are followed is a parameter.
* `Compiled.ofDocument` — a document with everything that its references lead to.

## Design

A reference hides the keywords beside it. Where a reference is met for the first time they are not
even read; where it has been met before they are read, so that their defects show, and then dropped.
-/

namespace SchemaKit.Validation

open Decimal (Ratio)

/-! ## Order of reading -/

/-- Puts a member behind all members of the same or a smaller rank. -/
def insertRanked (m : String × Json) : List (String × Json) → List (String × Json)
  | [] => [m]
  | m' :: rest =>
    if Keyword.rank m.1 < Keyword.rank m'.1 then m :: m' :: rest else m' :: insertRanked m rest

/-- Members in the order of reading. -/
def sortRanked (members : List (String × Json)) : List (String × Json) :=
  members.foldl (fun acc m => insertRanked m acc) []

/-- A document with the members of every object in the order of reading. -/
def arrange : Json → Json
  | .arr items => .arr (arrangeItems items)
  | .obj members => .obj (sortRanked (arrangeMembers members))
  | v => v
where
  /-- Item by item. -/
  arrangeItems : List Json → List Json
    | [] => []
    | v :: rest => arrange v :: arrangeItems rest
  /-- Member by member. -/
  arrangeMembers : List (String × Json) → List (String × Json)
    | [] => []
    | (k, v) :: rest => (k, arrange v) :: arrangeMembers rest

/-! ## Collected keywords -/

/-- What the keywords of one schema say so far. -/
structure Build where
  hasId : Bool := false
  target : Option String := none
  stopped : Bool := false
  kinds : List Kind := []
  properties : List (String × Constraint) := []
  patterns : List (Pattern × Constraint) := []
  restMembers : Rest := .anything
  positions : List Constraint := []
  restItems : Rest := .anything
  minimum : Option Ratio := none
  exclusiveMinimum : Option Ratio := none
  maximum : Option Ratio := none
  exclusiveMaximum : Option Ratio := none
  minLength : Option Nat := none
  minProperties : Option Nat := none
  minItems : Option Nat := none
  test : Option Constraint := none
  consequence : Constraint := .always true
  alternative : Constraint := .always true
  rules : List Rule := []

namespace Build

/-- Adds a rule. -/
def add (b : Build) (r : Rule) : Build := { b with rules := r :: b.rules }

/-- Rules about members. -/
def memberRules (b : Build) : List Rule :=
  match b.properties, b.patterns, b.restMembers with
  | [], [], .anything => []
  | ps, qs, rest => [.members ps qs rest]

/-- Rules about items by position. -/
def itemRules (b : Build) : List Rule :=
  if b.positions.isEmpty then [] else [.positions b.positions b.restItems]

/-- Rules about bounds. -/
def boundRules (b : Build) : List Rule :=
  (b.minimum.map (Rule.bound .minimum)).toList ++
    (b.exclusiveMinimum.map (Rule.bound .exclusiveMinimum)).toList ++
    (b.maximum.map (Rule.bound .maximum)).toList ++
    (b.exclusiveMaximum.map (Rule.bound .exclusiveMaximum)).toList

/-- Rules about conditions. -/
def conditionRules (b : Build) : List Rule :=
  (b.test.map fun t => Rule.conditional t b.consequence b.alternative).toList

/-- The constraint that the keywords make up. -/
def finish (b : Build) : Constraint :=
  match b.target with
  | some t => .reference t
  | none =>
    .rules b.kinds
      (b.memberRules ++ b.itemRules ++ b.boundRules ++ b.conditionRules ++ b.rules.reverse)

end Build

/-! ## Keywords with plain values -/

/-- Schemas are read with the references met so far at hand. -/
structure Pool where
  started : List String
  finished : Definitions

/-- Reading may fail, and keeps the pool. -/
abbrev Reading := StateT Pool (Except Defect)

/-- A value has to be a text. -/
def textOf (key : Keyword) : Json → Except Defect String
  | .str s => .ok s
  | _ => .error (.wrongType "string" key.name)

/-- Adds one kind to those that are admitted. -/
def addKind (b : Build) (name : String) : Except Defect Build :=
  match Kind.ofName? name with
  | none => .error (.unknownType name)
  | some k =>
    if b.kinds.contains k then .error (.repeatedType name)
    else .ok { b with kinds := b.kinds ++ [k] }

/-- The kinds in a list of names. -/
def addKinds (b : Build) : List Json → Except Defect Build
  | [] => .ok b
  | .str s :: rest => (addKind b s).bind (addKinds · rest)
  | .num _ :: _ => .error .unrepresentable
  | _ :: _ => .error (.wrongType "string/array of strings" "type")

/-- The kinds that a schema admits. -/
def readType (b : Build) : Json → Except Defect Build
  | .str s => addKind b s
  | .arr items => addKinds b items
  | _ => .error (.wrongType "string/array of strings" "type")

/-- The exact value of a number. -/
def ratioOf? : Json → Option Ratio
  | .num n => if n.isExact then some ⟨n.signed.1, n.signed.2⟩ else none
  | _ => none

/-- A bound, which has to be a number. -/
def readBound (key : Keyword) (v : Json) : Except Defect Ratio :=
  match ratioOf? v with
  | some r => .ok r
  | none => .error (.mustBeA key "number")

/-- A divisor has to be positive. -/
def readDivisor (v : Json) : Except Defect Ratio :=
  match ratioOf? v with
  | none => .error (.wrongType "number" "multipleOf")
  | some r => if r.num ≤ 0 then .error (.notPositive .multipleOf) else .ok r

/-- An exclusive bound: a number, or a switch that makes the inclusive bound exclusive. -/
def readExclusive (e : Edition) (key other : Keyword) (inclusive : Option Ratio) (v : Json) :
    Except Defect (Option Ratio × Option Ratio) :=
  match v with
  | .bool on =>
    if e = .six || e = .seven then .error (.wrongType "number" key.name)
    else if !on then .ok (inclusive, none)
    else match inclusive with
      | some r => .ok (none, some r)
      | none => .error (.needs key other)
  | .num n =>
    if e = .four then .error (.wrongType "boolean" key.name)
    else if e = .mixed && !n.isExact then .error .unrepresentable
    else .ok (inclusive, ratioOf? v)
  | _ =>
    .error (.wrongType
      (match e with
        | .four => "boolean"
        | .mixed => "boolean/number"
        | _ => "number") key.name)

/-- A count: a plain integer that is not negative. -/
def readCount (key : Keyword) (v : Json) : Except Defect Nat :=
  match v with
  | .num n =>
    match n.int64? with
    | none => .error (.mustBeAn key "integer")
    | some i => if i < 0 then .error (.negative key) else .ok i.toNat
  | _ => .error (.mustBeAn key "integer")

/-- A largest count that is not below the least one. -/
def readMost (key lesser : Keyword) (least : Option Nat) (v : Json) : Except Defect Nat :=
  match readCount key v with
  | .error d => .error d
  | .ok n => if least.any (fun m => n < m) then .error (.exceeds lesser key) else .ok n

/-- Names in a list, each once. -/
def readNames (seen : List String) : List Json → Except Defect (List String)
  | [] => .ok seen
  | .str s :: rest =>
    if seen.contains s then .error (.repeatedItem .required) else readNames (seen ++ [s]) rest
  | v :: _ =>
    match v with
    | .num n => if n.isExact then .error (.itemsMustBe .required "string") else .error .unrepresentable
    | _ => .error (.itemsMustBe .required "string")

/-- Canonical texts of a list of values, each once. -/
def readValues (seen : List String) : List Json → Except Defect (List String)
  | [] => .ok seen
  | v :: rest =>
    match Json.canonicalText? v with
    | none => .error .unreadableNumber
    | some t =>
      if seen.contains t then .error (.repeatedItem .enum) else readValues (seen ++ [t]) rest

/-- Names that a member depends on. -/
def readDependency (seen : List String) : List Json → Except Defect (List String)
  | [] => .ok seen
  | .str s :: rest => readDependency (seen ++ [s]) rest
  | v :: _ =>
    match ratioOf? v, v with
    | none, .num _ => .error .unrepresentable
    | _, _ => .error (.mustBeOfType "dependency" "schema or array of strings")

/-- Whether a value has the form of a schema. -/
def isSchemaForm : Json → Bool
  | .obj _ | .bool _ => true
  | _ => false

/-- A truth value says whether the rest is admitted at all. -/
def plainRest? : Json → Option Rest
  | .bool on => some (if on then .anything else .nothing)
  | _ => none

/-- The items of an array. -/
def itemsOf? : Json → Option (List Json)
  | .arr items => some items
  | _ => none

/-- An identifier has to be well formed; the one that counts depends on the edition. -/
def readId (e : Edition) (key : Keyword) (b : Build) (v : Json) : Except Defect Build :=
  let counts := match key with
    | .oldId => e = .four || e = .mixed
    | _ => e = .six || e = .seven || (e = .mixed && !b.hasId)
  if !counts then .ok b
  else match v with
    | .str s =>
      match Uri.parse s with
      | .ok _ => .ok { b with hasId := true }
      | .error f => .error (.uri f)
    | _ => .error (.wrongType "string" key.name)

/-- A keyword whose value holds no schemas. -/
def readPlain (e : Edition) (key : Keyword) (v : Json) (b : Build) : Except Defect Build :=
  match key with
  | .oldId | .newId => readId e key b v
  | .title | .description => (textOf key v).map fun _ => b
  | .type => readType b v
  | .multipleOf => (readDivisor v).map fun r => b.add (.multipleOf r)
  | .minimum => (readBound key v).map fun r => { b with minimum := some r }
  | .maximum => (readBound key v).map fun r => { b with maximum := some r }
  | .exclusiveMinimum =>
    (readExclusive e key .minimum b.minimum v).map fun (low, strict) =>
      { b with minimum := low, exclusiveMinimum := strict }
  | .exclusiveMaximum =>
    (readExclusive e key .maximum b.maximum v).map fun (high, strict) =>
      { b with maximum := high, exclusiveMaximum := strict }
  | .minLength =>
    (readCount key v).map fun n => { b.add (.least .length n) with minLength := some n }
  | .maxLength =>
    (readMost key .minLength b.minLength v).map fun n => b.add (.most .length n)
  | .minProperties =>
    (readCount key v).map fun n => { b.add (.least .properties n) with minProperties := some n }
  | .maxProperties =>
    (readMost key .minProperties b.minProperties v).map fun n => b.add (.most .properties n)
  | .minItems =>
    (readCount key v).map fun n => { b.add (.least .items n) with minItems := some n }
  | .maxItems =>
    (readMost key .minItems b.minItems v).map fun n => b.add (.most .items n)
  | .pattern =>
    match v with
    | .str s =>
      match Pattern.parse? s with
      | some p => .ok (b.add (.pattern s p))
      | none => .error (.badPattern key)
    | _ => .error (.mustBeA key "string")
  | .format =>
    match v with
    | .str s => .ok (b.add (.format s))
    | _ => .error (.mustBeOfType key.name "string")
  | .required =>
    match v with
    | .arr items => (readNames [] items).map fun names => b.add (.requiredNames names)
    | _ => .error (.mustBeAn key "array")
  | .uniqueItems =>
    match v with
    | .bool on => .ok (if on then b.add .distinct else b)
    | _ => .error (.mustBeA key "boolean")
  | .const =>
    if !e.fromSix then .ok b
    else match Json.canonicalText? v with
      | some t => .ok (b.add (.const t))
      | none => .error .unreadableNumber
  | .enum =>
    match v with
    | .arr items =>
      (readValues [] items).map fun texts => if texts.isEmpty then b else b.add (.enum texts)
    | _ => .error (.mustBeAn key "array")
  | _ => .ok b

/-- A reference: the first time it is met it is followed, and nothing beside it is read. -/
def readReference (follow : String → Reading Unit) (b : Build) (v : Json) : Reading Build :=
  match v with
  | .str s =>
    match Uri.parse s with
    | .error f => throw (.uri f)
    | .ok u => do
      let target := u.text
      if (← get).started.contains target then return { b with target := some target }
      modify fun pool => { pool with started := target :: pool.started }
      follow target
      return { b with target := some target, stopped := true }
  | _ => throw (.wrongType "string" "$ref")

/-- A number without exact value cannot be asked for its kind. -/
def refuseInexact (v : Json) : Except Defect Unit :=
  match v with
  | .num n => if n.isExact then .ok () else .error .unrepresentable
  | _ => .ok ()

/-! ## Schemas -/

section

variable (e : Edition) (follow : String → Reading Unit)

mutual

/-- The constraint of a schema document whose members are in the order of reading. A value of
another form has the defect `otherwise`. -/
def compile (otherwise : Defect) : Json → Reading Constraint
  | .bool pass => if e.fromSix then return .always pass else throw .notSchema
  | .obj members => do return (← compileMembers members {}).finish
  | v => do
    refuseInexact v
    throw otherwise

/-- Keyword by keyword. -/
def compileMembers : List (String × Json) → Build → Reading Build
  | [], b => return b
  | (name, v) :: rest, b =>
    if b.stopped then return b
    else do
      let b ← match Keyword.ofName? name with
        | none => pure b
        | some key => do
          if key.asksKind then refuseInexact v
          match key with
          | .reference => readReference follow b v
          | .definitions => do
            compileDefinitions v
            pure b
          | .properties => do pure { b with properties := ← compileProperties v }
          | .additionalProperties => do
            pure { b with restMembers := ← match plainRest? v with
              | some rest => pure rest
              | none => do pure (.schema (← compile (.wrongType "boolean/valid schema" key.name) v)) }
          | .patternProperties => do pure { b with patterns := ← compilePatterns v }
          | .propertyNames =>
            if !e.fromSix then pure b
            else do
              pure (b.add (.propertyNames
                (← compile (.wrongType "valid schema" "patternProperties") v)))
          | .dependencies => compileDependencies v b
          | .items =>
            let defect := Defect.wrongType "valid schema/array of schemas" key.name
            if (itemsOf? v).isSome then do pure { b with positions := ← compileItems defect v }
            else do pure (b.add (.each (← compile defect v)))
          | .additionalItems => do
            pure { b with restItems := ← match plainRest? v with
              | some rest => pure rest
              | none => do pure (.schema (← compile (.wrongType "boolean/valid schema" key.name) v)) }
          | .contains =>
            if !e.fromSix then pure b else do pure (b.add (.containsOne (← compile .notSchema v)))
          | .oneOf => do
            let schemas ← compileList key v
            pure (if schemas.isEmpty then b else b.add (.oneOf schemas))
          | .anyOf => do
            let schemas ← compileList key v
            pure (if schemas.isEmpty then b else b.add (.anyOf schemas))
          | .allOf => do
            let schemas ← compileList key v
            pure (if schemas.isEmpty then b else b.add (.allOf schemas))
          | .negation => do pure (b.add (.negation (← compile (.mustBeAn key "object") v)))
          | .condition =>
            if !e.fromSeven then pure b
            else do pure { b with test := some (← compile (.mustBeAn key "object") v) }
          | .consequence =>
            if !e.fromSeven then pure b
            else do pure { b with consequence := ← compile (.mustBeAn key "object") v }
          | .alternative =>
            if !e.fromSeven then pure b
            else do pure { b with alternative := ← compile (.mustBeAn key "object") v }
          | key => readPlain e key v b
      compileMembers rest b

/-- Definitions are read for their defects; they are used through references only. -/
def compileDefinitions : Json → Reading Unit
  | .obj entries => do
    let _ ← compileEntries (.wrongType "array of schemas" "definitions") entries
    return
  | .bool _ => throw .unrepresentable
  | _ => throw (.wrongType "array of schemas" "definitions")

/-- The schemas of declared properties. -/
def compileProperties : Json → Reading (List (String × Constraint))
  | .obj entries => compileEntries .notSchema entries
  | _ => throw (.mustBeOfType "properties" "object")

/-- Schemas by name. -/
def compileEntries (otherwise : Defect) :
    List (String × Json) → Reading (List (String × Constraint))
  | [] => return []
  | (name, v) :: rest => do
    let s ← compile otherwise v
    return (name, s) :: (← compileEntries otherwise rest)

/-- The schemas of name patterns. -/
def compilePatterns : Json → Reading (List (Pattern × Constraint))
  | .obj entries => compilePatternEntries entries
  | _ => throw (.wrongType "valid schema" "patternProperties")

/-- Schemas by pattern. -/
def compilePatternEntries : List (String × Json) → Reading (List (Pattern × Constraint))
  | [] => return []
  | (source, v) :: rest =>
    match Pattern.parse? source with
    | none => throw (.badNamePattern source)
    | some p => do
      let s ← compile .notSchema v
      return (p, s) :: (← compilePatternEntries rest)

/-- What members depend on. -/
def compileDependencies : Json → Build → Reading Build
  | .obj entries, b => compileDependencyEntries entries b
  | _, _ => throw (.mustBeOfType "dependencies" "object")

/-- Dependencies by name: other names, or a schema. -/
def compileDependencyEntries : List (String × Json) → Build → Reading Build
  | [], b => return b
  | (name, v) :: rest, b => do
    let b ← match itemsOf? v with
      | some items => do pure (b.add (.dependentNames name (← readDependency [] items)))
      | none =>
        if isSchemaForm v then do pure (b.add (.dependentSchema name (← compile .notSchema v)))
        else throw (.mustBeOfType "dependency" "schema or array of strings")
    compileDependencyEntries rest b

/-- The schemas of positions. -/
def compileItems (otherwise : Defect) : Json → Reading (List Constraint)
  | .arr items => compileAll otherwise items
  | _ => throw otherwise

/-- The alternatives of a combined schema. -/
def compileList (key : Keyword) : Json → Reading (List Constraint)
  | .arr items => compileAll .notSchema items
  | _ => throw (.mustBeAn key "array")

/-- The schemas of a list. -/
def compileAll (otherwise : Defect) : List Json → Reading (List Constraint)
  | [] => return []
  | v :: rest => do
    let s ← compile otherwise v
    return s :: (← compileAll otherwise rest)

end

end

/-! ## Documents -/

/-- Follows at most `n` references one inside the other. -/
def compileWithin (e : Edition) (d : Directory) : (n : Nat) → Json → Reading Constraint
  | 0, v => compile e (fun _ => throw .unrepresentable) .notSchema v
  | n + 1, v =>
    compile e (fun target => do
      match Uri.parse target with
      | .error f => throw (.uri f)
      | .ok u =>
        let part ← d.find u
        refuseInexact part
        if !isSchemaForm part then throw (.mustBeOfType "valid schema" "object")
        let c ← compileWithin e d n part
        modify fun pool => { pool with finished := (target, c) :: pool.finished }) .notSchema v

/-- How many members called `$ref` a value holds: at most so many references can be met for the
first time. -/
def countReferences : Json → Nat
  | .arr items => countItems items
  | .obj members => countMembers members
  | _ => 0
where
  /-- Item by item. -/
  countItems : List Json → Nat
    | [] => 0
    | v :: rest => countReferences v + countItems rest
  /-- Member by member. -/
  countMembers : List (String × Json) → Nat
    | [] => 0
    | (k, v) :: rest => (if k == "$ref" then 1 else 0) + countReferences v + countMembers rest

/-- The edition that a document declares. -/
def editionOf (doc : Json) : Except Defect Edition :=
  match doc with
  | .bool _ => .ok .mixed
  | .obj members =>
    match Json.last? members "$schema" with
    | none => .ok .mixed
    | some (.str s) =>
      match Uri.parse s with
      | .ok u => .ok ((Edition.ofUri? u.text).getD .mixed)
      | .error f => .error (.uri f)
    | some v => (refuseInexact v).bind fun _ => .error (.mustBeOfType "$schema" "string")
  | v => (refuseInexact v).bind fun _ => .error .notObjectOrBoolean

/-- A schema document with everything that its references lead to. -/
def Compiled.ofDocument (doc : Json) : Except Defect Compiled := do
  let e ← editionOf doc
  let (doc, directory) := Directory.ofDocument (arrange doc.settle)
  let (root, pool) ← (compileWithin e directory (countReferences doc) doc).run ⟨[], []⟩
  return ⟨root, pool.finished⟩

end SchemaKit.Validation
