import SchemaKit.Json.Reader
import SchemaKit.Validation.Check
import SchemaKit.Validation.Compile

/-!
# Validation of texts

A body is validated against the text of a schema. The first value of each text counts; what follows
it is ignored.

## Main definitions

* `Report` — the violations found in a body, with the name of the entity it was meant to be.
* `Failure` — an error that may be a report, with words in front of it.
* `Rejection` — why a body is not accepted.
* `validate` — accepts or rejects a body.
-/

namespace SchemaKit.Validation

/-- The violations found in a body. The entity may have no name. -/
structure Report where
  entity : String
  violations : List Violation
  deriving DecidableEq, Repr

namespace Report

/-- A report of plain messages. -/
def ofMessages (entity : String) (messages : List String) : Report :=
  ⟨entity, Violation.sort (messages.map fun m => ⟨"", m, []⟩)⟩

/-- The report as one sentence. -/
def text (r : Report) : String :=
  "invalid " ++ (if r.entity = "" then "document" else r.entity) ++ ": " ++
    Text.joined "; " (r.violations.map (·.message))

/-- The report as a document. -/
def json (r : Report) : Json :=
  .obj ((if r.entity = "" then [] else [("entity", .str r.entity)]) ++
    [("errors", .arr (r.violations.map fun v => .obj [("message", .str v.message)]))])

end Report

/-- An error as it reaches a caller: a report, an error of another kind, or words in front of an
error. -/
inductive Failure where
  | report (r : Report)
  | other (text : String)
  | wrapped (words : String) (cause : Failure)

namespace Failure

/-- The wording of an error. -/
def text : Failure → String
  | report r => r.text
  | other t => t
  | wrapped words cause => words ++ ": " ++ cause.text

/-- The report in an error, if there is one. -/
def report? : Failure → Option Report
  | report r => some r
  | other _ => none
  | wrapped _ cause => cause.report?

/-- Whether there is a report in an error. -/
def isReport (f : Failure) : Bool := f.report?.isSome

end Failure

/-- Why a body is not accepted. -/
inductive Rejection where
  | emptyBody (entity : String)
  | unreadableSchema
  | badSchema (defect : Defect)
  | unreadableBody
  | invalid (report : Report)
  | undecidable

namespace Rejection

/-- The report that an empty body gets. -/
def emptyReport (entity : String) : Report := .ofMessages entity ["body is empty"]

/-- The violations behind a rejection, if it is about the body. -/
def report? : Rejection → Option Report
  | emptyBody entity => some (emptyReport entity)
  | invalid report => some report
  | _ => none

/-- The wording of a rejection. The reader's own words about a malformed text are left out. -/
def message : Rejection → String
  | emptyBody entity => "validate: " ++ (emptyReport entity).text ++ " body empty"
  | unreadableSchema => "gojsonschema.NewSchema: <cause>"
  | badSchema d => "gojsonschema.NewSchema: " ++ d.message
  | unreadableBody => "json schema validate: <cause>"
  | invalid report => report.text
  | undecidable => ""

end Rejection

/-- Compiles the text of a schema. -/
def compileText (schema : List Char) : Except Rejection Compiled :=
  match Json.readFirst schema with
  | none => .error .unreadableSchema
  | some doc =>
    match Compiled.ofDocument doc with
    | .error .unrepresentable => .error .undecidable
    | .error d => .error (.badSchema d)
    | .ok c => .ok c

/-- Judges a document. -/
def Compiled.judge (c : Compiled) (entity : String) (doc : Json) : Except Rejection Unit :=
  let t := c.tally doc
  if t.broken then .error .undecidable
  else if t.isValid then .ok ()
  else .error (.invalid ⟨entity, c.violations doc⟩)

/-- Validates a body against the text of a schema. -/
def validate (entity : String) (schema body : List Char) : Except Rejection Unit := do
  if body.isEmpty then throw (.emptyBody entity)
  let c ← compileText schema
  match Json.readFirst body with
  | none => throw .unreadableBody
  | some doc => c.judge entity doc.settle

end SchemaKit.Validation
