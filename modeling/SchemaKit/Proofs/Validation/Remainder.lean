import SchemaKit.Proofs.Json.Leading
import SchemaKit.Proofs.Validation.Clean

/-!
# What stands behind a validated document

A body is judged by the first value in it. So a body that is accepted need not be a document: it
starts with one, and that document would have been accepted by itself or with anything else behind
it. The body as a whole can be read exactly if nothing but blanks stands behind its first value.

## Main results

* `SchemaKit.Validation.isDocument_iff_of_validate` — when an accepted body is a document.
* `SchemaKit.Validation.not_forall_isDocument_of_validate` — it need not be one.
-/

namespace SchemaKit.Validation

open Json

variable {entity : String} {schema body : List Char}

/-- A body is accepted iff the schema compiles and admits its first value.

**Proof sketch.** By the steps of the validation: the body is not empty, the schema compiles, and
the body has a first value. -/
lemma validate_eq_ok_iff_judge : validate entity schema body = .ok () ↔
    body ≠ [] ∧ ∃ c doc, compileText schema = .ok c ∧ readFirst body = some doc ∧
      c.judge entity doc.settle = .ok () := by
  constructor
  · intro h
    have hbody : body ≠ [] := by
      rintro rfl
      cases h
    have hempty : body.isEmpty = false := by simpa using hbody
    cases hc : compileText schema with
    | error d => simp [validate, hempty, hc, bind, Except.bind] at h
    | ok c =>
      cases hdoc : readFirst body with
      | none => simp [validate, hempty, hc, hdoc, bind, Except.bind] at h
      | some doc =>
        rw [validate_eq_judge hbody hc hdoc] at h
        exact ⟨hbody, c, doc, rfl, rfl, h⟩
  · rintro ⟨hbody, c, doc, hc, hdoc, hjudge⟩
    rwa [validate_eq_judge hbody hc hdoc]

/-- Another body with the same first value is accepted as well. -/
lemma validate_of_readFirst_eq {body' : List Char} (h : validate entity schema body = .ok ())
    (hread : readFirst body' = readFirst body) : validate entity schema body' = .ok () := by
  obtain ⟨-, c, doc, hc, hdoc, hjudge⟩ := validate_eq_ok_iff_judge.1 h
  rw [hdoc] at hread
  have hbody : body' ≠ [] := by
    rintro rfl
    cases hread
  exact validate_eq_ok_iff_judge.2 ⟨hbody, c, doc, hc, hread, hjudge⟩

/-- **When an accepted body is a document.** An accepted body starts with a document. It is one as a
whole, and can be read as such, iff nothing but blanks stands behind that; whatever else stands there
instead makes no difference to the validation.

**Proof sketch.** The body is accepted for its first value, and `exists_of_readFirst` divides it
behind that. By `readFirst_append` another rest leads to the same value, and so to the same verdict. -/
theorem isDocument_iff_of_validate (h : validate entity schema body = .ok ()) :
    ∃ doc front rest, body = front ++ rest ∧ IsDocument doc front ∧ doc.depth ≤ maxDepth ∧
      ((∃ v, IsDocument v body) ↔ Blanks rest) ∧ (readWhole body = some doc ↔ Blanks rest) ∧
      ∀ tail, tail = [] ∨ EndsNumber tail → validate entity schema (front ++ tail) = .ok () := by
  obtain ⟨-, c, doc, hc, hdoc, hjudge⟩ := validate_eq_ok_iff_judge.1 h
  obtain ⟨front, rest, hbody, hdocument, hdepth, hwhole, hread⟩ := exists_of_readFirst hdoc
  refine ⟨doc, front, rest, hbody, hdocument, hdepth, hwhole, hread, fun tail htail => ?_⟩
  refine validate_of_readFirst_eq h (Eq.trans ?_ hdoc.symm)
  rcases htail with rfl | htail
  · rw [List.append_nil]
    exact readFirst_of_readWhole (readWhole_of_isDocument hdocument hdepth)
  · exact readFirst_append hdocument hdepth htail

/-! ## Two documents in one body -/

/-- A schema without conditions. -/
def unconditional : List Char := "\x7b\x7d".toList

/-- A body that consists of two documents. -/
def twoDocuments : List Char := "\x7b\x7d []".toList

/-- It is accepted for the first one of them. -/
lemma validate_twoDocuments : validate "" unconditional twoDocuments = .ok () := by
  have hschema : readFirst unconditional = some (.obj []) := by rfl
  have hbody : readFirst twoDocuments = some (.obj []) := by rfl
  have hcompile : Compiled.ofDocument (.obj []) = .ok ⟨.rules [] [], []⟩ := by rfl
  rw [validate_eq_judge (by decide) (compileText_of_readFirst hschema hcompile) hbody]
  cbv

/-- What is accepted with two documents is accepted with one of them, or with other texts behind
it. -/
theorem isDocument_iff_of_validate_twoDocuments :
    validate "" unconditional twoDocuments = .ok () ∧
      ∃ doc front rest, twoDocuments = front ++ rest ∧ IsDocument doc front ∧
        doc.depth ≤ maxDepth ∧ ((∃ v, IsDocument v twoDocuments) ↔ Blanks rest) ∧
        (readWhole twoDocuments = some doc ↔ Blanks rest) ∧
        ∀ tail, tail = [] ∨ EndsNumber tail →
          validate "" unconditional (front ++ tail) = .ok () :=
  ⟨validate_twoDocuments, isDocument_iff_of_validate validate_twoDocuments⟩

/-- An accepted body need not be a document, and so cannot always be read as a whole. -/
theorem not_forall_isDocument_of_validate :
    ¬∀ (entity : String) (schema body : List Char), validate entity schema body = .ok () →
      (∃ v, IsDocument v body) ∧ (readWhole body).isSome = true := by
  intro h
  obtain ⟨⟨v, hv⟩, -⟩ := h _ _ _ validate_twoDocuments
  have hscan : scan twoDocuments = .finished (.obj []) false := by rfl
  exact Bool.false_ne_true (eq_of_isDocument hscan hv).2

end SchemaKit.Validation
