import Mathlib.Logic.Relation
import Mathlib.Order.RelClasses
import SchemaKit.Proofs.Json.Sorted
import SchemaKit.Proofs.Validation.Outcomes
import SchemaKit.Proofs.Validation.Parts

/-!
# Where a check goes down to

A check goes down from a schema to parts of it. It passes on what it finds there: of all parts that
have to hold, and of the best alternative where none of several holds. At each part it may find
something by itself, as where a value is too long or a member is missing. What is reported is what is
found in this way. Where an `oneOf` has more than one alternative that holds, nothing is found: there
is no part that fails.

## Main definitions

* `SchemaKit.Validation.Task` — a check that a check goes down to.
* `SchemaKit.Validation.Task.Passes`, `SchemaKit.Validation.Task.Reaches` — where a check goes down
  to, in one step and in any number of steps.
* `SchemaKit.Validation.Task.Finds` — a check finds something by itself.
* `SchemaKit.Validation.Task.Crowded` — several alternatives of an `oneOf` hold.

## Main results

* `SchemaKit.Validation.Task.voices_iff` — a fault is reported iff a part finds something by itself.
* `SchemaKit.Validation.Task.exists_of_fails` — a check that fails goes down to a part that finds
  something by itself, or to one where several alternatives hold.
-/

namespace SchemaKit.Validation

open Json

/-! ## Rules without parts -/

section

variable (follow : Follow)

/-- Conditions on numbers are frank. -/
lemma frank_checkNumber {doc : Json} {path : List String} {cause : Cause} {holds : Decimal.Ratio → Bool}
    (hcause : cause.isCombined = false) : (checkNumber doc path cause holds).Frank := by
  unfold checkNumber
  split
  · split
    · exact Tally.frank_require hcause
    · exact Tally.frank_of_not_fails Tally.not_fails_lost
  · exact Tally.frank_of_not_fails Tally.not_fails_zero

/-- Conditions on canonical texts are frank. -/
lemma frank_checkAmong {doc : Json} {path : List String} {cause : Cause} {texts : List String}
    (hcause : cause.isCombined = false) : (checkAmong doc path cause texts).Frank := by
  unfold checkAmong
  split
  · exact Tally.frank_require hcause
  · exact Tally.frank_of_not_fails Tally.not_fails_lost

/-- A number that cannot be told from an object is no fault. -/
lemma frank_checkTellable (doc : Json) : (checkTellable doc).Frank := by
  unfold checkTellable
  split
  · split <;> exact Tally.frank_of_not_fails (by simp)
  · exact Tally.frank_of_not_fails (by simp)

/-- **A rule without parts reports each of its faults.**

**Proof sketch.** By the rule: each of them reports at the place where it is checked, and in its own
name. -/
lemma Rule.IsPlain.frank {r : Rule} (h : r.IsPlain) (doc : Json) (path : List String) :
    (checkRule follow r doc path).Frank := by
  have hzero : Tally.zero.Frank := Tally.frank_of_not_fails Tally.not_fails_zero
  have hlost : Tally.lost.Frank := Tally.frank_of_not_fails Tally.not_fails_lost
  have htrace : ∀ t : Tally, t.trace.Frank := fun t =>
    Tally.frank_of_not_fails (Tally.not_fails_trace t)
  cases r with
  | members | positions | dependentSchema | each | anyOf | oneOf | allOf => exact h.elim
  | propertyNames schema =>
    unfold checkRule
    split
    · refine Tally.frank_sum fun t ht => ?_
      obtain ⟨m, -, rfl⟩ := List.mem_map.1 ht
      exact Tally.frank_guarded rfl _
    · exact hzero
  | requiredNames names =>
    unfold checkRule
    split
    · refine Tally.frank_sum fun t ht => ?_
      obtain ⟨name, -, rfl⟩ := List.mem_map.1 ht
      split
      · exact Tally.frank_of_not_fails (Tally.not_fails_points 1)
      · exact Tally.frank_fault rfl
    · exact hzero
  | dependentNames name needed =>
    unfold checkRule
    split
    · unfold checkDependent
      split
      · exact hzero
      · refine Tally.frank_sum fun t ht => ?_
        obtain ⟨n, -, rfl⟩ := List.mem_map.1 ht
        exact Tally.frank_require rfl
    · exact frank_checkTellable _
  | containsOne schema =>
    unfold checkRule
    split
    · exact Tally.frank_anyOf rfl _
    · exact hzero
  | distinct =>
    unfold checkRule
    split
    · unfold checkDistinct
      split
      · exact hlost
      · refine Tally.frank_sum fun t ht => ?_
        obtain ⟨pair, -, rfl⟩ := List.mem_map.1 ht
        exact Tally.frank_fault rfl
    · exact hzero
  | least what n | most what n =>
    unfold checkRule
    split
    · exact Tally.frank_require rfl
    · exact hzero
  | multipleOf divisor | bound side limit => exact frank_checkNumber rfl
  | pattern source p =>
    unfold checkRule
    split
    · exact Tally.frank_require rfl
    · exact hzero
  | format name =>
    unfold checkRule
    unfold checkFormat
    split
    · exact Tally.frank_require rfl
    · exact Tally.frank_fault rfl
    · exact hzero
  | const text | enum texts => exact frank_checkAmong rfl
  | negation schema => exact (htrace _).add (Tally.frank_require rfl)
  | conditional test thenSchema elseSchema =>
    refine (htrace _).add ?_
    split
    · exact Tally.frank_guarded rfl _
    · exact Tally.frank_guarded rfl _

end

/-! ## Steps down -/

/-- A check that a check goes down to: a value at a place, the schema it has to agree with, and how
many references may still be followed. -/
structure Task where
  allowance : Nat
  schema : Constraint
  doc : Json
  path : List String

/-- What following at most `n` references amounts to. -/
def followWithin (definitions : Definitions) : (n : Nat) → Follow
  | 0, _, _, _ => .lost
  | n + 1, target, doc, path =>
    match lookup? definitions target with
    | some d => checkWithin definitions n d doc path
    | none => .lost

/-- A check with a bounded number of references is a check that follows so many. -/
lemma checkWithin_eq (definitions : Definitions) (n : Nat) :
    checkWithin definitions n = check (followWithin definitions n) := by
  cases n with
  | zero => rfl
  | succ n => rfl

/-- A member that neither a declared property nor a pattern speaks about. -/
def Unclaimed (properties : List (String × Constraint)) (patterns : List (Pattern × Constraint))
    (name : String) : Prop :=
  (∀ q ∈ patterns, q.1.occursIn name.toList = false) ∧ ∀ p ∈ properties, p.1 ≠ name

/-- The value has one of the kinds, if there are any. -/
def Admitted (kinds : List Kind) (doc : Json) : Prop :=
  kinds = [] ∨ ∃ k ∈ kinds, k.admits (Kind.of doc) = true

section

variable (definitions : Definitions)

/-- The outcome of a check. -/
def Task.tally (t : Task) : Tally := checkWithin definitions t.allowance t.schema t.doc t.path

/-- The schema is the best of several alternatives, none of which holds. -/
def IsBestFailing (n : Nat) (schemas : List Constraint) (doc : Json) (path : List String)
    (s : Constraint) : Prop :=
  s ∈ schemas ∧ (∀ s' ∈ schemas, (Task.tally definitions ⟨n, s', doc, path⟩).Fails) ∧
    Tally.best (schemas.map fun s' => Task.tally definitions ⟨n, s', doc, path⟩) =
      some (Task.tally definitions ⟨n, s, doc, path⟩)

/-- A rule passes on what a check finds. -/
inductive Rule.Passes : Nat → Rule → Json → List String → Task → Prop
  | property {n ps qs rest members path name s v} (hp : (name, s) ∈ ps)
      (hv : lookup? members name = some v) :
      Passes n (.members ps qs rest) (.obj members) path ⟨n, s, v, name :: path⟩
  | pattern {n ps qs rest members path name v p s} (hm : (name, v) ∈ members) (hq : (p, s) ∈ qs)
      (hoccurs : p.occursIn name.toList = true) :
      Passes n (.members ps qs rest) (.obj members) path ⟨n, s, v, name :: path⟩
  | other {n ps qs s members path name v} (hm : (name, v) ∈ members) (hfree : Unclaimed ps qs name) :
      Passes n (.members ps qs (.schema s)) (.obj members) path ⟨n, s, v, name :: path⟩
  | dependent {n name s members path} (h : (lookup? members name).isSome = true) :
      Passes n (.dependentSchema name s) (.obj members) path ⟨n, s, .obj members, path⟩
  | item {n s items path i v} (hv : items[i]? = some v) :
      Passes n (.each s) (.arr items) path ⟨n, s, v, Decimal.text i :: path⟩
  | position {n schemas rest items path i s v} (hs : schemas[i]? = some s)
      (hv : items[i]? = some v) :
      Passes n (.positions schemas rest) (.arr items) path ⟨n, s, v, Decimal.text i :: path⟩
  | further {n schemas s items path i v} (hne : schemas ≠ []) (hi : schemas.length ≤ i)
      (hv : items[i]? = some v) :
      Passes n (.positions schemas (.schema s)) (.arr items) path
        ⟨n, s, v, Decimal.text i :: path⟩
  | any {n schemas doc path s} (h : IsBestFailing definitions n schemas doc path s) :
      Passes n (.anyOf schemas) doc path ⟨n, s, doc, path⟩
  | one {n schemas doc path s} (h : IsBestFailing definitions n schemas doc path s) :
      Passes n (.oneOf schemas) doc path ⟨n, s, doc, path⟩
  | all {n schemas doc path s} (h : s ∈ schemas) :
      Passes n (.allOf schemas) doc path ⟨n, s, doc, path⟩

/-- A rule finds something by itself. Rules that only pass on what their parts find do not, and of
those with schemas for some members or items the ones that admit no others do. -/
def Rule.Finds (n : Nat) (r : Rule) (doc : Json) (path : List String) : Prop :=
  match r with
  | .members ps qs rest =>
    rest = .nothing ∧ ∃ members, doc = .obj members ∧ ∃ m ∈ members, Unclaimed ps qs m.1
  | .positions schemas rest =>
    rest = .nothing ∧ schemas ≠ [] ∧ ∃ items, doc = .arr items ∧ schemas.length < items.length
  | .dependentSchema _ _ | .each _ | .anyOf _ | .oneOf _ | .allOf _ => False
  | r => (checkRule (followWithin definitions n) r doc path).Fails

/-- More than one alternative holds where exactly one is asked for. -/
def Rule.Crowded (n : Nat) (r : Rule) (doc : Json) (path : List String) : Prop :=
  match r with
  | .oneOf schemas =>
    1 < schemas.countP fun s => (Task.tally definitions ⟨n, s, doc, path⟩).isValid
  | _ => False

namespace Task

/-- A check goes down to another one. -/
inductive Passes : Task → Task → Prop
  | reference {n target s doc path} (h : lookup? definitions target = some s) :
      Passes ⟨n + 1, .reference target, doc, path⟩ ⟨n, s, doc, path⟩
  | rule {n kinds rules doc path r q} (hkind : Admitted kinds doc) (hr : r ∈ rules)
      (h : r.Passes definitions n doc path q) : Passes ⟨n, .rules kinds rules, doc, path⟩ q

/-- A check goes down to another one in any number of steps. -/
def Reaches : Task → Task → Prop := Relation.ReflTransGen (Passes definitions)

/-- A check finds something by itself. -/
def Finds (t : Task) : Prop :=
  match t.schema with
  | .always pass => pass = false
  | .reference _ => False
  | .rules kinds rules =>
    ¬Admitted kinds t.doc ∨ ∃ r ∈ rules, r.Finds definitions t.allowance t.doc t.path

/-- A check finds more than one alternative that holds where exactly one is asked for. -/
def Crowded (t : Task) : Prop :=
  match t.schema with
  | .rules kinds rules =>
    Admitted kinds t.doc ∧ ∃ r ∈ rules, r.Crowded definitions t.allowance t.doc t.path
  | _ => False

end Task

variable {definitions} {n : Nat} {doc : Json} {path : List String}

/-- A rule passes on what its parts find.

**Proof sketch.** By the way it is passed on. -/
lemma Rule.Passes.hasPart {r : Rule} {q : Task} (h : r.Passes definitions n doc path q) :
    r.HasPart q.schema := by
  cases h with
  | property hp => exact .property hp
  | pattern _ hq => exact .pattern hq
  | other => exact .other
  | dependent => exact .dependent
  | item => exact .item
  | position hs => exact .position (List.mem_of_getElem? hs)
  | further => exact .further
  | any h => exact .any h.1
  | one h => exact .one h.1
  | all h => exact .all h

/-- A rule does not change how many references may still be followed. -/
lemma Rule.Passes.allowance_eq {r : Rule} {q : Task} (h : r.Passes definitions n doc path q) :
    q.allowance = n := by
  cases h <;> rfl

/-- A check that goes down follows a reference, or goes to a smaller schema.

**Proof sketch.** A reference takes one from the number of references that may be followed. A part
of a rule is smaller than the schema and leaves that number as it is. -/
lemma Task.Passes.decreases {t q : Task} (h : t.Passes definitions q) :
    Prod.Lex (· < ·) (· < ·) (q.allowance, sizeOf q.schema) (t.allowance, sizeOf t.schema) := by
  cases h with
  | reference => exact .left _ _ (Nat.lt_succ_self _)
  | @rule n kinds rules doc path r q hkind hr h =>
    rw [h.allowance_eq]
    refine .right _ ?_
    have hpart := h.hasPart.sizeOf_lt
    have hrule := List.sizeOf_lt_of_mem hr
    simp only [Constraint.rules.sizeOf_spec]
    omega

/-- The outcome under kinds and rules.

**Proof sketch.** By whether the document has one of the kinds. -/
lemma Task.tally_rules (kinds : List Kind) (rules : List Rule) :
    (Task.tally definitions ⟨n, .rules kinds rules, doc, path⟩).faults =
      open Classical in
      if Admitted kinds doc then
        (Tally.sum (rules.map (checkRule (followWithin definitions n) · doc path))).faults
      else (Tally.fault path (.kind kinds (Kind.of doc))).faults := by
  have hiff : (kinds.isEmpty || kinds.any (·.admits (Kind.of doc))) = true ↔ Admitted kinds doc := by
    simp [Admitted]
  rw [Task.tally, checkWithin_eq, check, checkRules_eq_map]
  by_cases h : Admitted kinds doc
  · rw [if_pos (hiff.2 h), if_pos h]
    simp [Tally.add, Tally.points]
  · rw [if_neg (fun h' => h (hiff.1 h')), if_neg h]

/-- A rule without parts passes nothing on. -/
lemma Rule.Passes.not_isPlain {r : Rule} {q : Task} (h : r.Passes definitions n doc path q) :
    ¬r.IsPlain := by
  cases h <;> exact id

/-- A rule without parts finds something by itself iff it fails. -/
lemma Rule.IsPlain.finds_iff {r : Rule} (h : r.IsPlain) :
    r.Finds definitions n doc path ↔
      (checkRule (followWithin definitions n) r doc path).Fails := by
  cases r with
  | members | positions | dependentSchema | each | anyOf | oneOf | allOf => exact h.elim
  | _ => rfl

/-! ## One step -/

section Shows

variable {P : Tally → Prop} (hP : Tally.Shows P)
include hP

/-- What shows in the outcome of a member beside the declared properties.

**Proof sketch.** By whether a pattern matches the name, and if none does, by whether a property has
it. What is left is the rest. -/
lemma Tally.Shows.memberOutcome {follow : Follow} {ps : List (String × Constraint)}
    {qs : List (Pattern × Constraint)} {rest : Rest} {name : String} {v : Json} :
    (P (let matched := checkPatterns follow qs name v (name :: path)
        if !matched.isEmpty then .add (.points 1) (.sum matched)
        else if ps.any (·.1 == name) then .zero
        else checkRest follow rest (.unknownKey name) path v (name :: path))) ↔
      (∃ q ∈ qs, q.1.occursIn name.toList = true ∧ P (check follow q.2 v (name :: path))) ∨
        (Unclaimed ps qs name ∧
          (rest = .nothing ∨ ∃ s, rest = .schema s ∧ P (check follow s v (name :: path)))) := by
  by_cases hmatch : ∀ q ∈ qs, q.1.occursIn name.toList = false
  · have hnil := (checkPatterns_eq_nil_iff follow qs name v (name :: path)).2 hmatch
    have hnone : ¬∃ q ∈ qs, q.1.occursIn name.toList = true ∧
        P (check follow q.2 v (name :: path)) := by
      rintro ⟨q, hq, hoccurs, -⟩
      rw [hmatch q hq] at hoccurs
      cases hoccurs
    simp only [hnil, List.isEmpty_nil, Bool.not_true, Bool.false_eq_true, if_false, hnone, false_or]
    by_cases hdeclared : ps.any (·.1 == name) = true
    · rw [if_pos hdeclared]
      simp only [List.any_eq_true, beq_iff_eq] at hdeclared
      obtain ⟨p, hp, hname⟩ := hdeclared
      exact iff_of_false hP.zero fun h => h.1.2 p hp hname
    · rw [if_neg hdeclared]
      simp only [List.any_eq_true, beq_iff_eq, not_exists, not_and] at hdeclared
      have hfree : Unclaimed ps qs name := ⟨hmatch, hdeclared⟩
      cases rest with
      | anything => simp [checkRest, hP.zero]
      | nothing => simpa [checkRest, hfree] using hP.fault rfl
      | schema s => simp [checkRest, hfree]
  · have hne : (checkPatterns follow qs name v (name :: path)).isEmpty = false := by
      rw [← checkPatterns_eq_nil_iff follow qs name v (name :: path)] at hmatch
      simpa using hmatch
    have hclaimed : ¬Unclaimed ps qs name := fun h => hmatch h.1
    simp only [hne, Bool.not_false, if_true, hP.add, hP.points, hP.sum, false_or, hclaimed, false_and,
      or_false]
    constructor
    · rintro ⟨t, ht, hshows⟩
      obtain ⟨q, hq, hoccurs, rfl⟩ := (mem_checkPatterns follow).1 ht
      exact ⟨q, hq, hoccurs, hshows⟩
    · rintro ⟨q, hq, hoccurs, hshows⟩
      exact ⟨_, (mem_checkPatterns follow).2 ⟨q, hq, hoccurs, rfl⟩, hshows⟩

/-- What shows in the outcome of a rule about members.

**Proof sketch.** The outcome is that of the declared properties and of each member beside them, and
both are known by `mem_checkProperties` and `memberOutcome`. A document that is no object has no
outcome. -/
lemma Tally.Shows.members {ps : List (String × Constraint)} {qs : List (Pattern × Constraint)}
    {rest : Rest} :
    P (checkRule (followWithin definitions n) (.members ps qs rest) doc path) ↔
      (Rule.members ps qs rest).Finds definitions n doc path ∨
        ∃ q, (Rule.members ps qs rest).Passes definitions n doc path q ∧ P (q.tally definitions) := by
  simp only [Task.tally, checkWithin_eq]
  cases doc with
  | obj members =>
    simp only [checkRule, hP.add, hP.sum, List.mem_map, exists_exists_and_eq_and,
      hP.memberOutcome]
    constructor
    · rintro (⟨t, ht, hshows⟩ | ⟨m, hm, ⟨q, hq, hoccurs, hshows⟩ | ⟨hfree, rfl | ⟨s, rfl, hshows⟩⟩⟩)
      · obtain ⟨p, hp, v, hv, rfl⟩ := (mem_checkProperties _).1 ht
        exact .inr ⟨_, .property hp hv, hshows⟩
      · exact .inr ⟨_, .pattern hm hq hoccurs, hshows⟩
      · exact .inl ⟨rfl, members, rfl, m, hm, hfree⟩
      · exact .inr ⟨_, .other hm hfree, hshows⟩
    · rintro (⟨hrest, ms, hms, m, hm, hfree⟩ | ⟨q, hpass, hshows⟩)
      · cases hms
        exact .inr ⟨m, hm, .inr ⟨hfree, .inl hrest⟩⟩
      · cases hpass with
        | property hp hv =>
          exact .inl ⟨_, (mem_checkProperties _).2 ⟨_, hp, _, hv, rfl⟩, hshows⟩
        | pattern hm hq hoccurs => exact .inr ⟨_, hm, .inl ⟨_, hq, hoccurs, hshows⟩⟩
        | other hm hfree => exact .inr ⟨_, hm, .inr ⟨hfree, .inr ⟨_, rfl, hshows⟩⟩⟩
  | _ =>
    refine iff_of_false (by simpa [checkRule] using hP.zero) ?_
    rintro (⟨-, ms, hms, -⟩ | ⟨q, hpass, -⟩)
    · cases hms
    · cases hpass

/-- What shows in the outcome of the items behind those that have a schema by position.

**Proof sketch.** By whether there are schemas by position and items behind them, and then by what
is said about those. -/
lemma Tally.Shows.moreItems {follow : Follow} {schemas : List Constraint} {rest : Rest}
    {items : List Json} :
    (P (if schemas.isEmpty || (items.drop schemas.length).isEmpty then Tally.zero
        else match rest with
          | .anything => .zero
          | .nothing => .fault path .noMoreItems
          | .schema s =>
            .sum (overItems (check follow s) path schemas.length (items.drop schemas.length)))) ↔
      schemas ≠ [] ∧ ((rest = .nothing ∧ schemas.length < items.length) ∨
        ∃ s, rest = .schema s ∧ ∃ i v, schemas.length ≤ i ∧ items[i]? = some v ∧
          P (check follow s v (Decimal.text i :: path))) := by
  by_cases hne : schemas = []
  · simpa [hne] using hP.zero
  by_cases hmore : items.length ≤ schemas.length
  · rw [if_pos (by simp [hmore])]
    refine iff_of_false hP.zero ?_
    rintro ⟨-, ⟨-, hlt⟩ | ⟨s, -, i, v, hi, hv, -⟩⟩
    · omega
    · have := (List.getElem?_eq_some_iff.1 hv).1
      omega
  · rw [if_neg (by simp [hne, hmore])]
    cases rest with
    | anything => simpa using hP.zero
    | nothing =>
      refine iff_of_true (hP.fault rfl) ⟨hne, .inl ⟨rfl, by omega⟩⟩
    | schema s =>
      simp only [hP.sum, ne_eq, hne, not_false_eq_true, true_and, reduceCtorEq, false_and, false_or,
        Rest.schema.injEq, exists_eq_left']
      constructor
      · rintro ⟨t, ht, hshows⟩
        obtain ⟨j, v, hv, rfl⟩ := mem_overItems.1 ht
        rw [List.getElem?_drop] at hv
        exact ⟨_, v, by omega, hv, hshows⟩
      · rintro ⟨i, v, hi, hv, hshows⟩
        have hsplit : schemas.length + (i - schemas.length) = i := by omega
        refine ⟨_, mem_overItems.2 ⟨i - schemas.length, v, ?_, rfl⟩, ?_⟩
        · rwa [List.getElem?_drop, hsplit]
        · rwa [hsplit]

/-- What shows in the outcome of a rule about items by position.

**Proof sketch.** The outcome is that of the items by position and of those behind them, and both
are known by `mem_checkPositions` and `moreItems`. A document that is no array has no outcome. -/
lemma Tally.Shows.positions {schemas : List Constraint} {rest : Rest} :
    P (checkRule (followWithin definitions n) (.positions schemas rest) doc path) ↔
      (Rule.positions schemas rest).Finds definitions n doc path ∨
        ∃ q, (Rule.positions schemas rest).Passes definitions n doc path q ∧
          P (q.tally definitions) := by
  simp only [Task.tally, checkWithin_eq]
  cases doc with
  | arr items =>
    unfold checkRule
    rw [hP.add, hP.sum]
    refine (or_congr_right hP.moreItems).trans ?_
    constructor
    · rintro (⟨t, ht, hshows⟩ | ⟨hne, ⟨rfl, hlt⟩ | ⟨s, rfl, i, v, hi, hv, hshows⟩⟩)
      · obtain ⟨i, s, v, hs, hv, rfl⟩ := (mem_checkPositions _).1 ht
        rw [Nat.zero_add] at hshows
        exact .inr ⟨_, .position hs hv, hshows⟩
      · exact .inl ⟨rfl, hne, items, rfl, hlt⟩
      · exact .inr ⟨_, .further hne hi hv, hshows⟩
    · rintro (⟨hrest, hne, is, his, hlt⟩ | ⟨q, hpass, hshows⟩)
      · cases his
        exact .inr ⟨hne, .inl ⟨hrest, hlt⟩⟩
      · cases hpass with
        | position hs hv =>
          exact .inl ⟨_, (mem_checkPositions _).2 ⟨_, _, _, hs, hv, rfl⟩, by rwa [Nat.zero_add]⟩
        | further hne hi hv => exact .inr ⟨hne, .inr ⟨_, rfl, _, _, hi, hv, hshows⟩⟩
  | _ =>
    refine iff_of_false (by simpa [checkRule] using hP.zero) ?_
    rintro (⟨-, -, items, hitems, -⟩ | ⟨q, hpass, -⟩)
    · cases hitems
    · cases hpass

/-- What shows in the outcome of a rule about each item.

**Proof sketch.** By `mem_overItems` the outcomes are those of the items. A document that is no
array has none. -/
lemma Tally.Shows.each {s : Constraint} :
    P (checkRule (followWithin definitions n) (.each s) doc path) ↔
      (Rule.each s).Finds definitions n doc path ∨
        ∃ q, (Rule.each s).Passes definitions n doc path q ∧ P (q.tally definitions) := by
  simp only [Task.tally, checkWithin_eq, Rule.Finds, false_or]
  cases doc with
  | arr items =>
    simp only [checkRule, hP.sum]
    constructor
    · rintro ⟨t, ht, hshows⟩
      obtain ⟨i, v, hv, rfl⟩ := mem_overItems.1 ht
      rw [Nat.zero_add] at hshows
      exact ⟨_, .item hv, hshows⟩
    · rintro ⟨q, hpass, hshows⟩
      cases hpass with
      | item hv =>
        exact ⟨_, mem_overItems.2 ⟨_, _, hv, rfl⟩, by rwa [Nat.zero_add]⟩
  | _ =>
    refine iff_of_false (by simpa [checkRule] using hP.zero) ?_
    rintro ⟨q, hpass, -⟩
    cases hpass

/-- What shows in the outcome of a rule about what a member depends on.

**Proof sketch.** By whether the member is present. A document that is no object has no outcome. -/
lemma Tally.Shows.dependentSchema {name : String} {s : Constraint} :
    P (checkRule (followWithin definitions n) (.dependentSchema name s) doc path) ↔
      (Rule.dependentSchema name s).Finds definitions n doc path ∨
        ∃ q, (Rule.dependentSchema name s).Passes definitions n doc path q ∧
          P (q.tally definitions) := by
  simp only [Task.tally, checkWithin_eq, Rule.Finds, false_or]
  cases doc with
  | obj members =>
    simp only [checkRule]
    by_cases hname : (lookup? members name).isSome = true
    · rw [if_pos hname]
      constructor
      · exact fun hshows => ⟨_, .dependent hname, hshows⟩
      · rintro ⟨q, hpass, hshows⟩
        cases hpass
        exact hshows
    · rw [if_neg hname]
      refine iff_of_false hP.zero ?_
      rintro ⟨q, hpass, -⟩
      cases hpass with
      | dependent h => exact hname h
  | _ =>
    refine iff_of_false ?_ ?_
    · simp only [checkRule, checkTellable]
      first
      | exact hP.zero
      | split
        · exact hP.zero
        · exact hP.lost
    · rintro ⟨q, hpass, -⟩
      cases hpass

end Shows

/-- The outcomes under several schemas. -/
lemma checkAll_eq_tallies (schemas : List Constraint) :
    checkAll (followWithin definitions n) schemas doc path =
      schemas.map fun s => Task.tally definitions ⟨n, s, doc, path⟩ := by
  simp only [checkAll_eq_map, Task.tally, checkWithin_eq]

/-- If none of several alternatives holds, something is the case with the best outcome iff it is with
a schema that has it.

**Proof sketch.** The outcomes are those of the schemas, one by one, and the best of them is one of
them. -/
lemma exists_best_iff {schemas : List Constraint} {P : Tally → Prop} :
    ((∀ t ∈ checkAll (followWithin definitions n) schemas doc path, t.Fails) ∧
        ∃ b, Tally.best (checkAll (followWithin definitions n) schemas doc path) = some b ∧ P b) ↔
      ∃ s, IsBestFailing definitions n schemas doc path s ∧
        P (Task.tally definitions ⟨n, s, doc, path⟩) := by
  rw [checkAll_eq_tallies, List.forall_mem_map]
  constructor
  · rintro ⟨hfails, b, hbest, hb⟩
    obtain ⟨s, hs, rfl⟩ := List.mem_map.1 (Tally.mem_of_best hbest)
    exact ⟨s, ⟨hs, hfails, hbest⟩, hb⟩
  · rintro ⟨s, ⟨-, hfails, hbest⟩, hb⟩
    exact ⟨hfails, _, hbest, hb⟩

/-- If none of some alternatives holds, one of them has the best outcome. -/
lemma exists_isBestFailing {schemas : List Constraint} (hne : schemas ≠ [])
    (h : ∀ t ∈ checkAll (followWithin definitions n) schemas doc path, t.Fails) :
    ∃ s, IsBestFailing definitions n schemas doc path s ∧
      (Task.tally definitions ⟨n, s, doc, path⟩).Fails := by
  rw [← exists_best_iff]
  have hall : checkAll (followWithin definitions n) schemas doc path ≠ [] := by
    simpa [checkAll_eq_map] using hne
  obtain ⟨b, hb⟩ := Tally.exists_best hall
  exact ⟨h, b, hb, h b (Tally.mem_of_best hb)⟩

/-- **A rule reports a fault iff it finds something by itself or passes it on.**

**Proof sketch.** A rule without parts reports each fault that it finds, by `frank`. For the other
rules there is one lemma for each, and alternatives pass on what the best of them reports. -/
lemma Rule.voices_iff (r : Rule) :
    (checkRule (followWithin definitions n) r doc path).Voices ↔
      r.Finds definitions n doc path ∨
        ∃ q, r.Passes definitions n doc path q ∧ (q.tally definitions).Voices := by
  by_cases hplain : r.IsPlain
  · have hnone : ¬∃ q, r.Passes definitions n doc path q ∧ (q.tally definitions).Voices :=
      fun ⟨q, hpass, _⟩ => hpass.not_isPlain hplain
    rw [hplain.finds_iff, or_iff_left hnone]
    exact ⟨Tally.Voices.fails, hplain.frank _ doc path⟩
  cases r with
  | members ps qs rest => exact Tally.shows_voices.members
  | positions schemas rest => exact Tally.shows_voices.positions
  | each s => exact Tally.shows_voices.each
  | dependentSchema name s => exact Tally.shows_voices.dependentSchema
  | anyOf schemas =>
    rw [checkRule, Tally.voices_anyOf, exists_best_iff, Rule.Finds, false_or]
    constructor
    · rintro ⟨s, hs, hvoices⟩
      exact ⟨_, .any hs, hvoices⟩
    · rintro ⟨q, hpass, hvoices⟩
      cases hpass with
      | any hs => exact ⟨_, hs, hvoices⟩
  | oneOf schemas =>
    rw [checkRule, Tally.voices_oneOf, exists_best_iff, Rule.Finds, false_or]
    constructor
    · rintro ⟨s, hs, hvoices⟩
      exact ⟨_, .one hs, hvoices⟩
    · rintro ⟨q, hpass, hvoices⟩
      cases hpass with
      | one hs => exact ⟨_, hs, hvoices⟩
  | allOf schemas =>
    rw [checkRule, Tally.voices_allOf, checkAll_eq_tallies, Rule.Finds, false_or]
    simp only [List.mem_map, exists_exists_and_eq_and]
    constructor
    · rintro ⟨s, hs, hvoices⟩
      exact ⟨_, .all hs, hvoices⟩
    · rintro ⟨q, hpass, hvoices⟩
      cases hpass with
      | all hs => exact ⟨_, hs, hvoices⟩
  | _ => exact absurd trivial hplain

/-- A rule that fails finds something by itself, passes a failure on, or has too many alternatives
that hold.

**Proof sketch.** As `Rule.voices_iff`, with the failures of alternatives: if none of them holds,
the best one fails. For `oneOf` it may also be that more than one holds. -/
lemma Rule.cases_of_fails {r : Rule} (hr : ¬r.IsDeserted)
    (h : (checkRule (followWithin definitions n) r doc path).Fails) :
    r.Finds definitions n doc path ∨ r.Crowded definitions n doc path ∨
      ∃ q, r.Passes definitions n doc path q ∧ (q.tally definitions).Fails := by
  by_cases hplain : r.IsPlain
  · exact .inl (hplain.finds_iff.2 h)
  cases r with
  | members ps qs rest => exact (Tally.shows_fails.members.1 h).imp_right .inr
  | positions schemas rest => exact (Tally.shows_fails.positions.1 h).imp_right .inr
  | each s => exact (Tally.shows_fails.each.1 h).imp_right .inr
  | dependentSchema name s => exact (Tally.shows_fails.dependentSchema.1 h).imp_right .inr
  | anyOf schemas =>
    rw [checkRule, Tally.fails_anyOf] at h
    have hne : schemas ≠ [] := fun hnil => hr (.inl (hnil ▸ rfl))
    obtain ⟨s, hs, hfails⟩ := exists_isBestFailing hne h
    exact .inr (.inr ⟨_, .any hs, hfails⟩)
  | oneOf schemas =>
    rw [checkRule, Tally.fails_oneOf] at h
    have hne : schemas ≠ [] := fun hnil => hr (.inr (hnil ▸ rfl))
    by_cases hzero : (checkAll (followWithin definitions n) schemas doc path).countP Tally.isValid = 0
    · obtain ⟨s, hs, hfails⟩ :=
        exists_isBestFailing hne ((Tally.countP_isValid_eq_zero_iff _).1 hzero)
      exact .inr (.inr ⟨_, .one hs, hfails⟩)
    · rw [checkAll_eq_tallies, List.countP_map] at h hzero
      refine .inr (.inl ?_)
      change 1 < List.countP (Tally.isValid ∘ _) schemas
      omega
  | allOf schemas =>
    rw [checkRule, Tally.fails_allOf, checkAll_eq_tallies] at h
    simp only [List.mem_map, exists_exists_and_eq_and] at h
    obtain ⟨s, hs, hfails⟩ := h
    exact .inr (.inr ⟨_, .all hs, hfails⟩)
  | _ => exact absurd trivial hplain

namespace Task

/-- What shows in the outcome under a reference shows where the reference leads.

**Proof sketch.** By whether a reference may still be followed, and whether it leads anywhere. -/
lemma shows_reference {P : Tally → Prop} (hP : Tally.Shows P) (target : String) :
    P (tally definitions ⟨n, .reference target, doc, path⟩) ↔
      ∃ q, Passes definitions ⟨n, .reference target, doc, path⟩ q ∧ P (q.tally definitions) := by
  rw [tally, checkWithin_eq, check]
  cases n with
  | zero =>
    refine iff_of_false hP.lost ?_
    rintro ⟨q, hpass, -⟩
    cases hpass
  | succ n =>
    cases htarget : lookup? definitions target with
    | none =>
      simp only [followWithin, htarget]
      refine iff_of_false hP.lost ?_
      rintro ⟨q, ⟨h⟩, -⟩
      rw [htarget] at h
      cases h
    | some s =>
      simp only [followWithin, htarget]
      constructor
      · exact fun h => ⟨_, .reference htarget, h⟩
      · rintro ⟨q, ⟨h⟩, hshows⟩
        rw [htarget] at h
        cases h
        exact hshows

/-- **A check reports a fault iff it finds something by itself or goes down to a check that reports
one.**

**Proof sketch.** By the schema: a flag finds its fault by itself, a reference goes down, and rules
are summed up by `Rule.voices_iff` once the kinds are right. -/
lemma voices_step (t : Task) :
    (t.tally definitions).Voices ↔
      t.Finds definitions ∨ ∃ q, t.Passes definitions q ∧ (q.tally definitions).Voices := by
  obtain ⟨n, schema, doc, path⟩ := t
  cases schema with
  | always pass =>
    have hnone : ¬∃ q, Passes definitions ⟨n, .always pass, doc, path⟩ q ∧
        (q.tally definitions).Voices := fun ⟨q, hpass, _⟩ => nomatch hpass
    rw [or_iff_left hnone, tally, checkWithin_eq, check, Tally.voices_require]
    exact and_iff_left rfl
  | reference target =>
    rw [Finds, false_or]
    exact shows_reference Tally.shows_voices target
  | rules kinds rules =>
    by_cases hkind : Admitted kinds doc
    · rw [Tally.Voices, tally_rules, if_pos hkind, ← Tally.Voices, Tally.voices_sum]
      simp only [List.mem_map, exists_exists_and_eq_and, Rule.voices_iff, Finds, hkind,
        not_true_eq_false, false_or]
      constructor
      · rintro ⟨r, hr, hfinds | ⟨q, hpass, hvoices⟩⟩
        · exact .inl ⟨r, hr, hfinds⟩
        · exact .inr ⟨q, .rule hkind hr hpass, hvoices⟩
      · rintro (⟨r, hr, hfinds⟩ | ⟨q, hpass, hvoices⟩)
        · exact ⟨r, hr, .inl hfinds⟩
        · cases hpass with
          | rule _ hr hpass => exact ⟨_, hr, .inr ⟨q, hpass, hvoices⟩⟩
    · rw [Tally.Voices, tally_rules, if_neg hkind, ← Tally.Voices, Tally.voices_fault]
      exact iff_of_true rfl (.inl (.inl hkind))

/-- A check that fails finds something by itself, has too many alternatives that hold, or goes down
to a check that fails.

**Proof sketch.** By the schema, as `voices_step`, with `Rule.cases_of_fails`. -/
lemma cases_of_fails {t : Task} (ht : t.schema.Peopled) (h : (t.tally definitions).Fails) :
    t.Finds definitions ∨ t.Crowded definitions ∨
      ∃ q, t.Passes definitions q ∧ (q.tally definitions).Fails := by
  obtain ⟨n, schema, doc, path⟩ := t
  cases ht with
  | always pass =>
    rw [tally, checkWithin_eq, check, Tally.fails_require] at h
    exact .inl h
  | reference target => exact .inr (.inr ((shows_reference Tally.shows_fails target).1 h))
  | @rules kinds rules hrules _ =>
    by_cases hkind : Admitted kinds doc
    · rw [Tally.Fails, tally_rules, if_pos hkind, ← Tally.Fails, Tally.fails_sum] at h
      obtain ⟨t, ht, hfails⟩ := h
      obtain ⟨r, hr, rfl⟩ := List.mem_map.1 ht
      obtain hfinds | hcrowded | ⟨q, hpass, hq⟩ := Rule.cases_of_fails (hrules r hr) hfails
      · exact .inl (.inr ⟨r, hr, hfinds⟩)
      · exact .inr (.inl ⟨hkind, r, hr, hcrowded⟩)
      · exact .inr (.inr ⟨q, .rule hkind hr hpass, hq⟩)
    · exact .inl (.inl hkind)

/-- A check goes down from peopled schemas to peopled schemas. -/
lemma Passes.peopled {t q : Task} (h : t.Passes definitions q)
    (hdefinitions : ∀ d ∈ definitions, d.2.Peopled) (ht : t.schema.Peopled) : q.schema.Peopled := by
  cases h with
  | reference htarget => exact hdefinitions _ (mem_of_lookup?_eq_some htarget)
  | rule _ hr hpass =>
    cases ht with
    | rules _ hparts => exact hparts _ hr _ hpass.hasPart

/-! ## Any number of steps -/

/-- To show something of a check, it may be assumed of the checks that it goes down to. -/
lemma induction (definitions : Definitions) {motive : Task → Prop}
    (step : ∀ t, (∀ q, t.Passes definitions q → motive q) → motive t) (t : Task) : motive t := by
  have hwf : WellFounded (Prod.Lex (· < · : Nat → Nat → Prop) (· < · : Nat → Nat → Prop)) :=
    WellFounded.prod_lex wellFounded_lt wellFounded_lt
  induction t using (InvImage.wf (fun t : Task => (t.allowance, sizeOf t.schema)) hwf).induction with
  | _ t ih => exact step t fun q hpass => ih q hpass.decreases

/-- **A fault is reported iff a check that is reached finds something by itself.**

**Proof sketch.** From left to right by induction on the task, since `voices_step` goes down to
smaller ones. From right to left by induction on the way to the check that finds something. -/
theorem voices_iff (t : Task) :
    (t.tally definitions).Voices ↔ ∃ q, t.Reaches definitions q ∧ q.Finds definitions := by
  constructor
  · induction t using Task.induction definitions with
    | _ t ih =>
      intro h
      obtain hfinds | ⟨q, hpass, hvoices⟩ := (voices_step t).1 h
      · exact ⟨t, .refl, hfinds⟩
      · obtain ⟨q', hreach, hfinds⟩ := ih q hpass hvoices
        exact ⟨q', .head hpass hreach, hfinds⟩
  · rintro ⟨q, hreach, hfinds⟩
    induction hreach using Relation.ReflTransGen.head_induction_on with
    | refl => exact (voices_step q).2 (.inl hfinds)
    | head hpass _ ih => exact (voices_step _).2 (.inr ⟨_, hpass, ih⟩)

/-- **A check that fails reaches one that finds something by itself, or one with too many
alternatives that hold.**

**Proof sketch.** Induction on the task, since a check goes down to smaller ones only: by
`cases_of_fails` there is a fault here or a failure below. -/
theorem exists_of_fails (hdefinitions : ∀ d ∈ definitions, d.2.Peopled) (t : Task)
    (ht : t.schema.Peopled) (h : (t.tally definitions).Fails) :
    ∃ q, t.Reaches definitions q ∧ (q.Finds definitions ∨ q.Crowded definitions) := by
  induction t using Task.induction definitions with
  | _ t ih =>
    obtain hfinds | hcrowded | ⟨q, hpass, hfails⟩ := cases_of_fails ht h
    · exact ⟨t, .refl, .inl hfinds⟩
    · exact ⟨t, .refl, .inr hcrowded⟩
    · obtain ⟨q', hreach, hq'⟩ := ih q hpass (hpass.peopled hdefinitions ht) hfails
      exact ⟨q', .head hpass hreach, hq'⟩

end Task

end

end SchemaKit.Validation
