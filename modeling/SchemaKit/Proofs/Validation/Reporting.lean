import SchemaKit.Proofs.Validation.Tasks

/-!
# What a rejection reports

A combined schema that fails adds a fault of its own to those of its parts, and reports leave the
faults of combined schemas out. So a body can be rejected without a single violation. This module
says exactly when.

## Main results

* `SchemaKit.Validation.report_violations_eq_nil_iff` — a report is empty iff the check reaches an
  `oneOf` with more than one alternative that holds, and nothing that finds a fault by itself.
-/

namespace SchemaKit.Validation

open Json

/-! ## Rejections -/

/-- The check of a document as a whole. -/
def Compiled.task (c : Compiled) (doc : Json) : Task := ⟨c.budget doc, c.root, doc, []⟩

/-- Nothing is reported iff no fault is. -/
lemma violations_eq_nil_iff (c : Compiled) (doc : Json) :
    c.violations doc = [] ↔ ¬((c.task doc).tally c.definitions).Voices := by
  have hnil : ∀ vs : List Violation, Violation.sort vs = [] ↔ vs = [] := fun vs => by
    rw [← List.length_eq_zero_iff, Violation.sort, List.length_mergeSort, List.length_eq_zero_iff]
  rw [Compiled.violations, hnil, List.map_eq_nil_iff, List.filter_eq_nil_iff]
  simp [Tally.Voices, Task.tally, Compiled.task, Compiled.tally]

/-- A schema that does not compile is not the body's fault.

**Proof sketch.** By the ways in which the compilation fails. -/
lemma report?_of_compileText {schema : List Char} {rejection : Rejection}
    (h : compileText schema = .error rejection) : rejection.report? = none := by
  unfold compileText at h
  split at h
  · cases h
    rfl
  · split at h
    · cases h
      rfl
    · cases h
      rfl
    · cases h

/-- In a compiled text every combination has alternatives. -/
lemma peopled_of_compileText {schema : List Char} {c : Compiled} (h : compileText schema = .ok c) :
    c.root.Peopled ∧ ∀ d ∈ c.definitions, d.2.Peopled := by
  obtain ⟨doc, -, hc⟩ := exists_of_compileText h
  exact peopled_of_ofDocument hc

/-- Where a report comes from: the body is empty, or it is read, judged and found wanting.

**Proof sketch.** By the steps of the validation. The only failures with a report are an empty body
and a value that was judged and found wanting. -/
lemma report_cases {entity : String} {schema body : List Char} {rejection : Rejection}
    {report : Report} (h : validate entity schema body = .error rejection)
    (hreport : rejection.report? = some report) :
    (body = [] ∧ report = Rejection.emptyReport entity) ∨
      (body ≠ [] ∧ ∃ c doc, compileText schema = .ok c ∧ readFirst body = some doc ∧
        ((c.task doc.settle).tally c.definitions).Fails ∧
        report = ⟨entity, c.violations doc.settle⟩) := by
  by_cases hbody : body = []
  · subst hbody
    cases h
    exact .inl ⟨rfl, (Option.some.inj hreport).symm⟩
  refine .inr ⟨hbody, ?_⟩
  have hempty : body.isEmpty = false := by simpa using hbody
  cases hc : compileText schema with
  | error d =>
    have hd : d.report? = none := report?_of_compileText hc
    simp only [validate, hempty, hc, bind, Except.bind, Bool.false_eq_true, if_false] at h
    cases h
    rw [hd] at hreport
    cases hreport
  | ok c =>
    cases hdoc : readFirst body with
    | none =>
      simp only [validate, hempty, hc, hdoc, bind, Except.bind, Bool.false_eq_true, if_false] at h
      cases h
      cases hreport
    | some doc =>
      rw [validate_eq_judge hbody hc hdoc, Compiled.judge] at h
      split at h
      · cases h
        cases hreport
      · split at h
        · cases h
        · next hvalid =>
          cases h
          refine ⟨c, doc, rfl, rfl, ?_, (Option.some.inj hreport).symm⟩
          exact (Tally.isValid_eq_false_iff (c.tally doc.settle)).1 (by simpa using hvalid)

/-- **When a rejection is reported without a violation.** The body is not empty, and its check
reaches an `oneOf` with more than one alternative that holds, but nothing that finds a fault by
itself.

**Proof sketch.** The report of an empty body has a violation. Any other one has violations iff a
check that is reached finds something by itself, by `Task.voices_iff`. Since the value fails all the
same, `Task.exists_of_fails` gives a check with more than one alternative that holds. -/
theorem report_violations_eq_nil_iff {entity : String} {schema body : List Char}
    {rejection : Rejection} {report : Report}
    (h : validate entity schema body = .error rejection)
    (hreport : rejection.report? = some report) :
    report.violations = [] ↔
      body ≠ [] ∧ ∃ c doc, compileText schema = .ok c ∧ readFirst body = some doc ∧
        (∃ q, (c.task doc.settle).Reaches c.definitions q ∧ q.Crowded c.definitions) ∧
        ∀ q, (c.task doc.settle).Reaches c.definitions q → ¬q.Finds c.definitions := by
  obtain ⟨rfl, rfl⟩ | ⟨hbody, c, doc, hc, hdoc, hfails, rfl⟩ := report_cases h hreport
  · have hne : (Rejection.emptyReport entity).violations ≠ [] := by
      intro hnil
      have hlength := congrArg List.length hnil
      simp [Rejection.emptyReport, Report.ofMessages, Violation.sort] at hlength
    simp [hne]
  · rw [violations_eq_nil_iff, Task.voices_iff]
    constructor
    · intro hnone
      have hquiet : ∀ q, (c.task doc.settle).Reaches c.definitions q → ¬q.Finds c.definitions :=
        fun q hreach hfinds => hnone ⟨q, hreach, hfinds⟩
      obtain ⟨hroot, hdefinitions⟩ := peopled_of_compileText hc
      obtain ⟨q, hreach, hfinds | hcrowded⟩ := Task.exists_of_fails hdefinitions _ hroot hfails
      · exact absurd hfinds (hquiet q hreach)
      · exact ⟨hbody, c, doc, hc, hdoc, ⟨q, hreach, hcrowded⟩, hquiet⟩
    · rintro ⟨-, c', doc', hc', hdoc', -, hquiet⟩ ⟨q, hreach, hfinds⟩
      obtain rfl : c = c' := Except.ok.inj (hc.symm.trans hc')
      obtain rfl : doc = doc' := Option.some.inj (hdoc.symm.trans hdoc')
      exact hquiet q hreach hfinds

/-! ## Two alternatives that anything satisfies -/

/-- A schema with two alternatives that anything satisfies. -/
def twofold : Json := .obj [("oneOf", .arr [.obj [], .obj []])]

/-- It compiles, with both alternatives.

**Proof sketch.** The steps of the compilation are evaluated one by one. -/
lemma ofDocument_twofold :
    Compiled.ofDocument twofold = .ok ⟨.rules [] [.oneOf [.rules [] [], .rules [] []]], []⟩ := by
  have hsettle : arrange twofold.settle = twofold := by rfl
  have hdirectory : Directory.ofDocument twofold = (twofold, [("", twofold)]) := by rfl
  have hcompile : (compileWithin .mixed [("", twofold)] (countReferences twofold) twofold).run
      ⟨[], []⟩ = .ok (.rules [] [.oneOf [.rules [] [], .rules [] []]], ⟨[], []⟩) := by rfl
  have hedition : editionOf twofold = .ok .mixed := by rfl
  rw [Compiled.ofDocument, hedition, hsettle, hdirectory]
  simp only [bind, Except.bind, hcompile]
  rfl

/-- Null is rejected by it without a violation. -/
lemma validate_twofold :
    validate "" twofold.compact.toList "null".toList = .error (.invalid ⟨"", []⟩) := by
  have hread : readFirst twofold.compact.toList = some twofold := by rfl
  have hbody : readFirst "null".toList = some .null := by rfl
  rw [validate_eq_judge (by decide) (compileText_of_readFirst hread ofDocument_twofold) hbody]
  cbv

/-- Both alternatives hold, and nothing is found. -/
theorem report_violations_eq_nil_iff_twofold :
    ∃ c doc, compileText twofold.compact.toList = .ok c ∧ readFirst "null".toList = some doc ∧
      (∃ q, (c.task doc.settle).Reaches c.definitions q ∧ q.Crowded c.definitions) ∧
      ∀ q, (c.task doc.settle).Reaches c.definitions q → ¬q.Finds c.definitions :=
  ((report_violations_eq_nil_iff validate_twofold rfl).1 rfl).2

/-- So not every report about a rejected body has a violation. -/
theorem not_forall_violations_ne_nil :
    ¬∀ (entity : String) (schema body : List Char) (rejection : Rejection) (report : Report),
      validate entity schema body = .error rejection → rejection.report? = some report →
        report.violations ≠ [] :=
  fun h => h "" _ _ _ _ validate_twofold rfl rfl

end SchemaKit.Validation
