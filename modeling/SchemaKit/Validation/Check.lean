import SchemaKit.Format.Basic
import SchemaKit.Json.Canonical
import SchemaKit.Validation.Fault

/-!
# Checking documents

A document is checked against a compiled schema. Every check gives a tally: the faults found, a
score for how far the document agrees, and whether the check met a number that it cannot work with.
The score selects the branch to report where none of several alternatives holds.

## Main definitions

* `Tally` — the outcome of a check.
* `check` — the tally of a document under a schema; how references are followed is a parameter.
* `Compiled.tally` — the tally of a document under a compiled schema.

## Design

The recursion of `check` follows the schema, so it ends whatever the document is. References are
followed by `checkWithin`, which counts them. A reference that leads back to itself at the same place
of the document would never end; the budget of `Compiled.tally` is larger than any chain of
references that does.
-/

namespace SchemaKit.Validation

open Decimal (Ratio)

/-- The outcome of a check. -/
structure Tally where
  faults : List Fault
  score : Int
  broken : Bool

namespace Tally

/-- Nothing found. -/
def zero : Tally := ⟨[], 0, false⟩

/-- A score alone. -/
def points (n : Int) : Tally := ⟨[], n, false⟩

/-- A check that could not be carried out. -/
def lost : Tally := ⟨[], 0, true⟩

/-- One fault. It costs two points. -/
def fault (path : List String) (cause : Cause) : Tally := ⟨[⟨path, cause⟩], -2, false⟩

/-- Both outcomes together. -/
def add (a b : Tally) : Tally := ⟨a.faults ++ b.faults, a.score + b.score, a.broken || b.broken⟩

/-- All outcomes together. -/
def sum (ts : List Tally) : Tally := ts.foldr add zero

/-- The document agrees with the schema. -/
def isValid (t : Tally) : Bool := t.faults.isEmpty

/-- Only the question whether a check could be carried out. -/
def trace (t : Tally) : Tally := ⟨[], 0, t.broken⟩

/-- The first outcome with the highest score. -/
def best : List Tally → Option Tally
  | [] => none
  | t :: rest =>
    match best rest with
    | none => some t
    | some b => if t.score < b.score then some b else some t

/-- One fault if a condition fails. -/
def require (path : List String) (holds : Bool) (cause : Cause) : Tally :=
  if holds then zero else fault path cause

/-- The outcomes up to the first valid one, with it. -/
def untilValid : List Tally → List Tally
  | [] => []
  | t :: rest => if t.isValid then [t] else t :: untilValid rest

/-- One of the outcomes has to be valid; otherwise the best one is reported. -/
def anyOf (path : List String) (cause : Cause) (ts : List Tally) : Tally :=
  let tried := untilValid ts
  let seen := sum (tried.map trace)
  if tried.any isValid then seen
  else add seen (add (fault path cause) ((best tried).getD zero))

/-- Exactly one of the outcomes has to be valid; if none is, the best one is reported. -/
def oneOf (path : List String) (ts : List Tally) : Tally :=
  let seen := sum (ts.map trace)
  let valid := ts.countP isValid
  if valid = 1 then seen
  else if valid = 0 then add seen (add (fault path .notOneOf) ((best ts).getD zero))
  else add seen (fault path .notOneOf)

/-- All outcomes have to be valid. -/
def allOf (path : List String) (ts : List Tally) : Tally :=
  add (sum ts) (require path (ts.all isValid) .notAllOf)

/-- The outcome must not be valid. -/
def negate (path : List String) (t : Tally) : Tally :=
  add t.trace (require path (!t.isValid) .negation)

/-- An outcome that counts only if it is not valid, with a fault of its own in front. -/
def guarded (path : List String) (cause : Cause) (t : Tally) : Tally :=
  if t.isValid then t.trace else add (fault path cause) t

end Tally

/-! ## Rules about the value itself -/

/-- The points that a value earns for being looked at. -/
def basePoints : Json → Int
  | .null | .bool _ => 3
  | _ => 4

/-- The exact value of a number, if it is representable. -/
def exactValue? (n : Json.Numeral) : Option Ratio :=
  if n.isExact then some ⟨n.signed.1, n.signed.2⟩ else none

/-- A condition on the exact value of numbers. Other values satisfy it. -/
def checkNumber (doc : Json) (path : List String) (cause : Cause) (holds : Ratio → Bool) : Tally :=
  match doc with
  | .num n =>
    match exactValue? n with
    | some r => .require path (holds r) cause
    | none => .lost
  | _ => .zero

/-- Whether a number respects a bound. -/
def Side.admits (side : Side) (limit r : Ratio) : Bool :=
  match side with
  | .minimum => !r.lt limit
  | .exclusiveMinimum => limit.lt r
  | .maximum => !limit.lt r
  | .exclusiveMaximum => r.lt limit

/-- How much of the measured thing a value has, if it has any. -/
def Measure.of? (what : Measure) (doc : Json) : Option Nat :=
  match what, doc with
  | .length, .str s => some s.length
  | .items, .arr vs => some vs.length
  | .properties, .obj ms => some ms.length
  | _, _ => none

/-- The value, as canonical text, has to be among the given texts. -/
def checkAmong (doc : Json) (path : List String) (cause : Cause) (texts : List String) : Tally :=
  match Json.canonicalText? doc with
  | some t => .require path (texts.contains t) cause
  | none => .lost

/-- Items that repeat an earlier one: the position of the last equal one before, and their own. -/
def repeats : (seen : List (String × Nat)) → (position : Nat) → List String → List (Nat × Nat)
  | _, _, [] => []
  | seen, j, t :: rest =>
    match Json.lookup? seen t with
    | some i => (i, j) :: repeats ((t, j) :: seen) (j + 1) rest
    | none => repeats ((t, j) :: seen) (j + 1) rest

/-- Items have to differ from each other. -/
def checkDistinct (items : List Json) (path : List String) : Tally :=
  match items.mapM Json.canonicalText? with
  | none => .lost
  | some texts => .sum ((repeats [] 0 texts).map fun (i, j) => .fault path (.notDistinct i j))

/-- A format applies to texts; a number has none of the known formats. -/
def checkFormat (doc : Json) (path : List String) (name : String) : Tally :=
  match Format.ofName? name, doc with
  | some f, .str s => .require path (f.admits s) (.format name)
  | some _, .num _ => .fault path (.format name)
  | _, _ => .zero

/-- Names that have to be present; each one that is earns a point. -/
def checkRequired (members : List (String × Json)) (path : List String) (names : List String) :
    Tally :=
  .sum (names.map fun name =>
    if (Json.lookup? members name).isSome then .points 1 else .fault path (.missing name))

/-- Names that have to be present if another one is. -/
def checkDependent (members : List (String × Json)) (path : List String) (name : String)
    (needed : List String) : Tally :=
  if (Json.lookup? members name).isNone then .zero
  else .sum (needed.map fun n => .require path (Json.lookup? members n).isSome (.dependency n))

/-- A number without exact value cannot even be told from an object. -/
def checkTellable (doc : Json) : Tally :=
  match doc with
  | .num n => if n.isExact then .zero else .lost
  | _ => .zero

/-- The outcomes of a check for each item, with the item's position as its place. -/
def overItems (check : Json → List String → Tally) (path : List String) :
    (position : Nat) → List Json → List Tally
  | _, [] => []
  | i, v :: rest => check v (Decimal.text i :: path) :: overItems check path (i + 1) rest

/-! ## Schemas -/

/-- How a reference is followed. -/
abbrev Follow := String → Json → List String → Tally

mutual

/-- The tally of a document under a schema. -/
def check (follow : Follow) : Constraint → Json → List String → Tally
  | .always pass, _, path => .require path pass .never
  | .reference target, doc, path => follow target doc path
  | .rules kinds rules, doc, path =>
    if kinds.isEmpty || kinds.any (·.admits (Kind.of doc)) then
      .add (.points (basePoints doc)) (.sum (checkRules follow rules doc path))
    else .fault path (.kind kinds (Kind.of doc))

/-- The outcome of each rule. -/
def checkRules (follow : Follow) : List Rule → Json → List String → List Tally
  | [], _, _ => []
  | r :: rest, doc, path => checkRule follow r doc path :: checkRules follow rest doc path

/-- The outcome of one rule. A rule about another kind of values is satisfied. -/
def checkRule (follow : Follow) : Rule → Json → List String → Tally
  | .members properties patterns rest, doc, path =>
    match doc with
    | .obj members =>
      .add (.sum (checkProperties follow properties members path))
        (.sum (members.map fun (k, v) =>
          let matched := checkPatterns follow patterns k v (k :: path)
          if !matched.isEmpty then .add (.points 1) (.sum matched)
          else if properties.any (·.1 == k) then .zero
          else checkRest follow rest (.unknownKey k) path v (k :: path)))
    | _ => .zero
  | .propertyNames schema, doc, path =>
    match doc with
    | .obj members =>
      .sum (members.map fun (k, _) =>
        .guarded path (.propertyName k) (check follow schema (.str k) path))
    | _ => .zero
  | .requiredNames names, doc, path =>
    match doc with
    | .obj members => checkRequired members path names
    | _ => .zero
  | .dependentNames name needed, doc, path =>
    match doc with
    | .obj members => checkDependent members path name needed
    | doc => checkTellable doc
  | .dependentSchema name schema, doc, path =>
    match doc with
    | .obj members =>
      if (Json.lookup? members name).isSome then check follow schema doc path else .zero
    | doc => checkTellable doc
  | .each schema, doc, path =>
    match doc with
    | .arr items => .sum (overItems (check follow schema) path 0 items)
    | _ => .zero
  | .positions schemas rest, doc, path =>
    match doc with
    | .arr items =>
      let more := items.drop schemas.length
      .add (.sum (checkPositions follow schemas 0 items path))
        (if schemas.isEmpty || more.isEmpty then .zero
        else match rest with
          | .anything => .zero
          | .nothing => .fault path .noMoreItems
          | .schema s => .sum (overItems (check follow s) path schemas.length more))
    | _ => .zero
  | .containsOne schema, doc, path =>
    match doc with
    | .arr items => .anyOf path .containsNone (overItems (check follow schema) path 0 items)
    | _ => .zero
  | .distinct, doc, path =>
    match doc with
    | .arr items => checkDistinct items path
    | _ => .zero
  | .least what n, doc, path =>
    match what.of? doc with
    | some m => .require path (n ≤ m) (.tooFew what n)
    | none => .zero
  | .most what n, doc, path =>
    match what.of? doc with
    | some m => .require path (m ≤ n) (.tooMany what n)
    | none => .zero
  | .multipleOf divisor, doc, path =>
    checkNumber doc path (.multipleOf divisor) (·.isMultipleOf divisor)
  | .bound side limit, doc, path =>
    checkNumber doc path (.bound side limit) (side.admits limit)
  | .pattern source p, doc, path =>
    match doc with
    | .str s => .require path (p.occursIn s.toList) (.pattern source)
    | _ => .zero
  | .format name, doc, path => checkFormat doc path name
  | .const text, doc, path => checkAmong doc path (.const text) [text]
  | .enum texts, doc, path => checkAmong doc path (.enum texts) texts
  | .anyOf schemas, doc, path => .anyOf path .noneOf (checkAll follow schemas doc path)
  | .oneOf schemas, doc, path => .oneOf path (checkAll follow schemas doc path)
  | .allOf schemas, doc, path => .allOf path (checkAll follow schemas doc path)
  | .negation schema, doc, path => .negate path (check follow schema doc path)
  | .conditional test thenSchema elseSchema, doc, path =>
    let t := check follow test doc path
    .add t.trace
      (if t.isValid then .guarded path .thenFailed (check follow thenSchema doc path)
      else .guarded path .elseFailed (check follow elseSchema doc path))

/-- The outcome for a member or item that nothing else speaks about. -/
def checkRest (follow : Follow) : Rest → Cause → List String → Json → List String → Tally
  | .anything, _, _, _, _ => .zero
  | .nothing, cause, outer, _, _ => .fault outer cause
  | .schema s, _, _, doc, path => check follow s doc path

/-- The outcome under each of several schemas. -/
def checkAll (follow : Follow) : List Constraint → Json → List String → List Tally
  | [], _, _ => []
  | s :: rest, doc, path => check follow s doc path :: checkAll follow rest doc path

/-- Items and schemas by position, as long as there are both. -/
def checkPositions (follow : Follow) :
    List Constraint → (position : Nat) → List Json → List String → List Tally
  | s :: rest, i, v :: items, path =>
    check follow s v (Decimal.text i :: path) :: checkPositions follow rest (i + 1) items path
  | _, _, _, _ => []

/-- The declared properties that an object has. -/
def checkProperties (follow : Follow) :
    List (String × Constraint) → List (String × Json) → List String → List Tally
  | [], _, _ => []
  | (name, s) :: rest, members, path =>
    let more := checkProperties follow rest members path
    match Json.lookup? members name with
    | some v => check follow s v (name :: path) :: more
    | none => more

/-- The patterns that a member's name matches. -/
def checkPatterns (follow : Follow) :
    List (Pattern × Constraint) → String → Json → List String → List Tally
  | [], _, _, _ => []
  | (p, s) :: rest, name, doc, path =>
    let more := checkPatterns follow rest name doc path
    if p.occursIn name.toList then check follow s doc path :: more else more

end

/-- Follows at most `n` references in a row. -/
def checkWithin (definitions : Definitions) : (n : Nat) → Constraint → Json → List String → Tally
  | 0, c, doc, path => check (fun _ _ _ => .lost) c doc path
  | n + 1, c, doc, path =>
    check (fun target doc path =>
      match Json.lookup? definitions target with
      | some d => checkWithin definitions n d doc path
      | none => .lost) c doc path

namespace Compiled

/-- More references than a check that ends can follow: at each level of the document every
definition is entered at most once. -/
def budget (c : Compiled) (doc : Json) : Nat :=
  (doc.depth + 2) * (c.definitions.length + 1)

/-- The tally of a document whose objects name each member once. -/
def tally (c : Compiled) (doc : Json) : Tally :=
  checkWithin c.definitions (c.budget doc) c.root doc []

/-- The reports about a document, combined schemas left to their parts. -/
def violations (c : Compiled) (doc : Json) : List Violation :=
  Violation.sort
    (((c.tally doc).faults.filter fun f => !f.cause.isCombined).map Fault.violation)

end Compiled

end SchemaKit.Validation
