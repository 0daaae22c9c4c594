import Mathlib.Tactic.Common
import SchemaKit.Validation.Report

/-!
# Clean outcomes of checks

A body is accepted if the check of its document is clean: no fault was found, and no number was met
that the check cannot work with. Being clean passes through the ways in which outcomes are put
together, so that acceptance under a schema can be read off the schema.

## Main definitions

* `SchemaKit.Validation.Tally.Clean` — an outcome without faults that was carried out in full.

## Main results

* `SchemaKit.Validation.Tally.clean_add`, `SchemaKit.Validation.Tally.clean_sum` — outcomes together
  are clean iff each of them is.
* `SchemaKit.Validation.clean_rules` — a document is clean under kinds and rules iff it has one of
  the kinds and is clean under each rule.
* `SchemaKit.Validation.judge_eq_ok_iff` — a document is accepted iff its check is clean.
-/

namespace SchemaKit.Validation

open Json

namespace Tally

/-- An outcome without faults, of a check that was carried out in full. -/
def Clean (t : Tally) : Prop := t.faults = [] ∧ t.broken = false

/-- Finding nothing is clean. -/
@[simp] lemma clean_zero : zero.Clean := ⟨rfl, rfl⟩

/-- A score alone is clean. -/
@[simp] lemma clean_points (n : Int) : (points n).Clean := ⟨rfl, rfl⟩

/-- A fault is not clean. -/
@[simp] lemma not_clean_fault (path : List String) (cause : Cause) : ¬(fault path cause).Clean := by
  rintro ⟨h, -⟩
  exact absurd h (by simp [fault])

/-- Two outcomes together are clean iff both of them are. -/
@[simp] lemma clean_add (a b : Tally) : (a.add b).Clean ↔ a.Clean ∧ b.Clean := by
  simp only [Clean, add, List.append_eq_nil_iff, Bool.or_eq_false_iff]
  tauto

/-- Outcomes together are clean iff each of them is. -/
@[simp] lemma clean_sum (ts : List Tally) : (sum ts).Clean ↔ ∀ t ∈ ts, t.Clean := by
  induction ts with
  | nil => simp [sum]
  | cons t ts ih =>
    have hcons : sum (t :: ts) = t.add (sum ts) := rfl
    rw [hcons, clean_add, ih]
    simp

end Tally

/-! ## Schemas -/

section

variable (follow : Follow)

/-- A document is clean under kinds and rules iff it has one of the kinds, if there are any, and is
clean under each rule.

**Proof sketch.** By whether the document has one of the kinds. If it has not, a fault is reported,
and no rule is looked at. -/
lemma clean_rules (kinds : List Kind) (rules : List Rule) (doc : Json) (path : List String) :
    (check follow (.rules kinds rules) doc path).Clean ↔
      (kinds = [] ∨ ∃ k ∈ kinds, k.admits (Kind.of doc) = true) ∧
        ∀ t ∈ checkRules follow rules doc path, t.Clean := by
  rw [check]
  split
  · next h =>
    simp only [Bool.or_eq_true, List.isEmpty_iff, List.any_eq_true] at h
    simp [h]
  · next h =>
    simp only [Bool.or_eq_true, List.isEmpty_iff, List.any_eq_true] at h
    simp [h]

/-- The declared properties of an object are clean iff each one that is present is.

**Proof sketch.** Induction on the properties, by whether the member is present. -/
lemma clean_checkProperties (properties : List (String × Constraint))
    (members : List (String × Json)) (path : List String) :
    (∀ t ∈ checkProperties follow properties members path, t.Clean) ↔
      ∀ p ∈ properties, ∀ v, lookup? members p.1 = some v →
        (check follow p.2 v (p.1 :: path)).Clean := by
  induction properties with
  | nil => simp [checkProperties]
  | cons p properties ih =>
    obtain ⟨name, s⟩ := p
    rw [checkProperties]
    cases h : lookup? members name with
    | none => simp [h, ih]
    | some v => simp [h, ih]

/-- An object is clean under declared properties that admit no others iff each declared property is
clean and each member is declared.

**Proof sketch.** A member that no property declares is refused, since there are no patterns and no
others are admitted. -/
lemma clean_members_nothing (properties : List (String × Constraint))
    (members : List (String × Json)) (path : List String) :
    (checkRule follow (.members properties [] .nothing) (.obj members) path).Clean ↔
      (∀ p ∈ properties, ∀ v, lookup? members p.1 = some v →
        (check follow p.2 v (p.1 :: path)).Clean) ∧
        ∀ m ∈ members, ∃ p ∈ properties, p.1 = m.1 := by
  simp only [checkRule, Tally.clean_add, Tally.clean_sum, clean_checkProperties, List.mem_map,
    forall_exists_index, and_imp, forall_apply_eq_imp_iff₂]
  refine and_congr_right fun _ => forall₂_congr fun m _ => ?_
  by_cases hdeclared : ∃ p ∈ properties, p.1 = m.1
  · simp [checkPatterns, hdeclared]
  · simp [checkPatterns, checkRest, hdeclared]

/-- An object is clean under required names iff it has each of them. -/
lemma clean_requiredNames (names : List String) (members : List (String × Json))
    (path : List String) :
    (checkRule follow (.requiredNames names) (.obj members) path).Clean ↔
      ∀ name ∈ names, (lookup? members name).isSome = true := by
  simp only [checkRule, checkRequired, Tally.clean_sum, List.mem_map, forall_exists_index,
    and_imp, forall_apply_eq_imp_iff₂]
  refine forall₂_congr fun name _ => ?_
  by_cases h : (lookup? members name).isSome = true
  · simp [h]
  · simp [h]

end

/-- However many references may be followed, a check is one over the structure of the schema. -/
lemma checkWithin_eq_check (definitions : Definitions) (n : Nat) :
    ∃ follow, checkWithin definitions n = check follow := by
  cases n with
  | zero => exact ⟨_, by funext c doc path; rfl⟩
  | succ n => exact ⟨_, by funext c doc path; rfl⟩

/-! ## Texts -/

/-- **A document is accepted iff its check is clean.** -/
theorem judge_eq_ok_iff (c : Compiled) (entity : String) (doc : Json) :
    c.judge entity doc = .ok () ↔ (c.tally doc).Clean := by
  simp only [Compiled.judge, Tally.isValid, Tally.Clean]
  by_cases hbroken : (c.tally doc).broken = true
  · simp [hbroken]
  · by_cases hfaults : (c.tally doc).faults = []
    · simp [hbroken, hfaults]
    · simp [hbroken, hfaults]

/-- A schema text that can be read and compiled compiles. -/
lemma compileText_of_readFirst {text : List Char} {doc : Json} {c : Compiled}
    (hread : readFirst text = some doc) (hc : Compiled.ofDocument doc = .ok c) :
    compileText text = .ok c := by
  rw [compileText, hread]
  simp only [hc]

/-- A text that compiles holds a document that does.

**Proof sketch.** By the steps of the compilation. -/
lemma exists_of_compileText {text : List Char} {c : Compiled} (h : compileText text = .ok c) :
    ∃ doc, readFirst text = some doc ∧ Compiled.ofDocument doc = .ok c := by
  unfold compileText at h
  split at h
  · cases h
  · next doc hread =>
    split at h
    · cases h
    · cases h
    · next hc =>
      cases h
      exact ⟨doc, hread, hc⟩

/-- A body that can be read is judged by its first value. -/
lemma validate_eq_judge {entity : String} {schema body : List Char} {c : Compiled} {doc : Json}
    (hbody : body ≠ []) (hc : compileText schema = .ok c) (hread : readFirst body = some doc) :
    validate entity schema body = c.judge entity doc.settle := by
  have hempty : body.isEmpty = false := by simp [hbody]
  simp [validate, hempty, hc, hread, bind, Except.bind]

end SchemaKit.Validation
