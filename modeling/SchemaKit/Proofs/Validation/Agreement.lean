import Mathlib.Algebra.Order.Ring.Int
import Mathlib.Data.List.Forall2
import SchemaKit.Proofs.Validation.Outcomes

/-!
# Schemas that agree

Two schemas agree if every document fails under both of them or under none, and can be checked under
both of them or under none. The faults themselves may differ: they quote bounds as they are written.
Agreement of the parts gives agreement of the whole, for every way to put schemas together.

## Main definitions

* `SchemaKit.Validation.Tally.Agree` — outcomes that both fail or both do not.
* `SchemaKit.Decimal.Ratio.Same` — fractions of the same value.
* `SchemaKit.Validation.Constraint.Alike`, `SchemaKit.Validation.Rule.Alike` — schemas and rules
  under which all documents have outcomes that agree.

## Main results

* `SchemaKit.Validation.Constraint.alike_rules` — schemas agree if their rules do.
* `SchemaKit.Validation.Rule.alike_members` and the lemmas beside it — rules agree if their parts do.
-/

namespace SchemaKit

/-! ## Fractions of the same value -/

namespace Decimal.Ratio

/-- Two fractions of the same value, with positive denominators. -/
structure Same (a b : Ratio) : Prop where
  den_pos : 0 < a.den
  den_pos' : 0 < b.den
  cross : a.num * b.den = b.num * a.den

variable {a b : Ratio}

/-- A fraction is compared with fractions of the same value alike.

**Proof sketch.** Both comparisons are of integers. Multiplied by the other denominator they are the
same one, since the cross products agree. -/
lemma Same.lt_eq (h : a.Same b) (r : Ratio) : r.lt a = r.lt b := by
  have ha : (0 : ℤ) < a.den := by exact_mod_cast h.den_pos
  have hb : (0 : ℤ) < b.den := by exact_mod_cast h.den_pos'
  have hcross := h.cross
  rw [lt, lt, decide_eq_decide]
  calc r.num * a.den < a.num * r.den
      ↔ r.num * a.den * b.den < a.num * r.den * b.den := (Int.mul_lt_mul_right hb).symm
    _ ↔ r.num * b.den * a.den < b.num * r.den * a.den := by
        rw [mul_right_comm r.num, mul_right_comm a.num, hcross, mul_right_comm b.num]
    _ ↔ r.num * b.den < b.num * r.den := Int.mul_lt_mul_right ha

/-- Fractions of the same value are compared with a fraction alike. -/
lemma Same.eq_lt (h : a.Same b) (r : Ratio) : a.lt r = b.lt r := by
  have ha : (0 : ℤ) < a.den := by exact_mod_cast h.den_pos
  have hb : (0 : ℤ) < b.den := by exact_mod_cast h.den_pos'
  have hcross := h.cross
  rw [lt, lt, decide_eq_decide]
  calc a.num * r.den < r.num * a.den
      ↔ a.num * r.den * b.den < r.num * a.den * b.den := (Int.mul_lt_mul_right hb).symm
    _ ↔ b.num * r.den * a.den < r.num * b.den * a.den := by
        rw [mul_right_comm r.num, mul_right_comm a.num, hcross, mul_right_comm b.num]
    _ ↔ b.num * r.den < r.num * b.den := Int.mul_lt_mul_right ha

/-- A fraction is a multiple of fractions of the same value alike.

**Proof sketch.** Being a multiple is a divisibility of integers. Multiplied by the other
denominator, both divisibilities are the same one, since the cross products agree. -/
lemma Same.isMultipleOf_eq (h : a.Same b) (r : Ratio) :
    r.isMultipleOf a = r.isMultipleOf b := by
  have ha : (a.den : ℤ) ≠ 0 := by exact_mod_cast h.den_pos.ne'
  have hb : (b.den : ℤ) ≠ 0 := by exact_mod_cast h.den_pos'.ne'
  have hcross := h.cross
  rw [isMultipleOf, isMultipleOf, Bool.eq_iff_iff, beq_iff_eq, beq_iff_eq, ← Int.dvd_iff_emod_eq_zero,
    ← Int.dvd_iff_emod_eq_zero]
  calc (r.den : ℤ) * a.num ∣ r.num * a.den
      ↔ r.den * a.num * b.den ∣ r.num * a.den * b.den := (Int.mul_dvd_mul_iff_right hb).symm
    _ ↔ r.den * b.num * a.den ∣ r.num * b.den * a.den := by
        rw [mul_right_comm r.num, mul_assoc, hcross, ← mul_assoc]
    _ ↔ (r.den : ℤ) * b.num ∣ r.num * b.den := Int.mul_dvd_mul_iff_right ha

/-- Bounds of the same value admit the same numbers. -/
lemma Same.admits_eq (h : a.Same b) (side : Validation.Side) (r : Ratio) :
    side.admits a r = side.admits b r := by
  cases side <;> simp only [Validation.Side.admits, h.lt_eq, h.eq_lt]

end Decimal.Ratio

namespace Validation

open Json

/-! ## Outcomes -/

namespace Tally

/-- Two outcomes that both fail or both do not, of checks that could both be carried out or both
could not. -/
structure Agree (a b : Tally) : Prop where
  fails : a.Fails ↔ b.Fails
  broken : a.broken = b.broken

/-- An outcome agrees with itself. -/
lemma Agree.refl (t : Tally) : t.Agree t := ⟨Iff.rfl, rfl⟩

variable {a b a' b' : Tally} {ts us : List Tally}

/-- Outcomes that agree are valid or not together. -/
lemma Agree.isValid_eq (h : a.Agree b) : a.isValid = b.isValid := by
  rw [Bool.eq_iff_iff, isValid_eq_true_iff, isValid_eq_true_iff, h.fails]

/-- Outcomes that agree are clean or not together. -/
lemma Agree.clean_iff (h : a.Agree b) : a.Clean ↔ b.Clean := by
  have hfaults : a.faults = [] ↔ b.faults = [] := not_iff_not.1 h.fails
  rw [Clean, Clean, hfaults, h.broken]

/-- All faults agree. -/
lemma agree_fault (path : List String) (cause cause' : Cause) :
    (fault path cause).Agree (fault path cause') := ⟨by simp, rfl⟩

/-- A condition agrees with itself, whatever it is called. -/
lemma agree_require (path : List String) (holds : Bool) (cause cause' : Cause) :
    (require path holds cause).Agree (require path holds cause') := by
  cases holds
  · exact agree_fault path cause cause'
  · exact .refl _

/-- Outcomes together agree if they agree one by one. -/
lemma Agree.add (h : a.Agree b) (h' : a'.Agree b') : (a.add a').Agree (b.add b') where
  fails := by rw [fails_add, fails_add, h.fails, h'.fails]
  broken := by simp only [Tally.add, h.broken, h'.broken]

/-- Outcomes together agree if they agree one by one. -/
lemma Agree.sum (h : List.Forall₂ Agree ts us) : (sum ts).Agree (sum us) := by
  induction h with
  | nil => exact .refl _
  | cons hhead _ ih => exact hhead.add ih

/-- Whether checks could be carried out is the same for outcomes that agree. -/
lemma Agree.trace (h : a.Agree b) : a.trace.Agree b.trace := ⟨by simp, h.broken⟩

/-- Guarded outcomes agree if the outcomes do. -/
lemma Agree.guarded (h : a.Agree b) (path : List String) (cause : Cause) :
    (guarded path cause a).Agree (guarded path cause b) := by
  unfold Tally.guarded
  rw [h.isValid_eq]
  split
  · exact h.trace
  · exact (Agree.refl _).add h

/-- Negated outcomes agree if the outcomes do. -/
lemma Agree.negate (h : a.Agree b) (path : List String) :
    (negate path a).Agree (negate path b) := by
  unfold Tally.negate
  rw [h.isValid_eq]
  exact h.trace.add (.refl _)

/-- Outcomes together could be carried out if each of them could. -/
lemma broken_sum (ts : List Tally) : (sum ts).broken = ts.any (·.broken) := by
  induction ts with
  | nil => rfl
  | cons t ts ih =>
    have hcons : Tally.sum (t :: ts) = t.add (Tally.sum ts) := rfl
    rw [hcons, List.any_cons, ← ih]
    rfl

/-- The best outcome could be carried out if all of them could. -/
lemma broken_best (ts : List Tally) :
    (ts.any (·.broken) || ((best ts).getD zero).broken) = ts.any (·.broken) := by
  cases hbest : best ts with
  | none => simp [zero]
  | some b =>
    rw [Bool.or_eq_left_iff_imp]
    exact fun hbroken => List.any_eq_true.2 ⟨b, mem_of_best hbest, hbroken⟩

/-- Alternatives could be carried out if all could that were tried. -/
lemma broken_anyOf (path : List String) (cause : Cause) (ts : List Tally) :
    (anyOf path cause ts).broken = (untilValid ts).any (·.broken) := by
  have hseen : (sum ((untilValid ts).map trace)).broken = (untilValid ts).any (·.broken) := by
    rw [broken_sum, List.any_map]
    rfl
  unfold anyOf
  simp only
  split
  · exact hseen
  · simp only [Tally.add, hseen, fault, Bool.false_or]
    exact broken_best _

/-- Alternatives of which one is asked for could be carried out if all of them could.

**Proof sketch.** By the cases of the rule: what was seen of all alternatives counts in each of
them, and nothing else that is added is broken. -/
lemma broken_oneOf (path : List String) (ts : List Tally) :
    (oneOf path ts).broken = ts.any (·.broken) := by
  have hseen : (sum (ts.map trace)).broken = ts.any (·.broken) := by
    rw [broken_sum, List.any_map]
    rfl
  unfold oneOf
  simp only
  split
  · exact hseen
  · split
    · simp only [Tally.add, hseen, fault, Bool.false_or]
      exact broken_best _
    · simp only [Tally.add, hseen, fault, Bool.or_false]

/-- Something that agrees one by one is asked of all outcomes alike. -/
lemma any_eq_of_forall₂ {g : Tally → Bool} (hg : ∀ {a b : Tally}, a.Agree b → g a = g b)
    (h : List.Forall₂ Agree ts us) : ts.any g = us.any g := by
  induction h with
  | nil => rfl
  | cons hhead _ ih => rw [List.any_cons, List.any_cons, hg hhead, ih]

/-- As many outcomes are valid. -/
lemma countP_eq_of_forall₂ (h : List.Forall₂ Agree ts us) :
    ts.countP isValid = us.countP isValid := by
  induction h with
  | nil => rfl
  | cons hhead _ ih => rw [List.countP_cons, List.countP_cons, hhead.isValid_eq, ih]

/-- As many outcomes are tried. -/
lemma forall₂_untilValid (h : List.Forall₂ Agree ts us) :
    List.Forall₂ Agree (untilValid ts) (untilValid us) := by
  induction h with
  | nil => exact .nil
  | cons hhead _ ih =>
    rw [untilValid, untilValid, hhead.isValid_eq]
    split
    · exact .cons hhead .nil
    · exact .cons hhead ih

/-- Alternatives agree if they do one by one. -/
lemma Agree.anyOf (h : List.Forall₂ Agree ts us) (path : List String) (cause : Cause) :
    (anyOf path cause ts).Agree (anyOf path cause us) where
  fails := by
    rw [fails_anyOf, fails_anyOf, ← any_isValid_eq_false_iff, ← any_isValid_eq_false_iff,
      any_eq_of_forall₂ Agree.isValid_eq h]
  broken := by
    rw [broken_anyOf, broken_anyOf]
    exact any_eq_of_forall₂ Agree.broken (forall₂_untilValid h)

/-- Alternatives of which one is asked for agree if they do one by one. -/
lemma Agree.oneOf (h : List.Forall₂ Agree ts us) (path : List String) :
    (oneOf path ts).Agree (oneOf path us) where
  fails := by rw [fails_oneOf, fails_oneOf, countP_eq_of_forall₂ h]
  broken := by
    rw [broken_oneOf, broken_oneOf]
    exact any_eq_of_forall₂ Agree.broken h

/-- Outcomes that all have to be valid agree if they do one by one. -/
lemma Agree.allOf (h : List.Forall₂ Agree ts us) (path : List String) :
    (allOf path ts).Agree (allOf path us) := by
  have hall : ts.all isValid = us.all isValid := by
    have hany := any_eq_of_forall₂ (g := fun t => !t.isValid) (fun h => by rw [h.isValid_eq]) h
    rwa [← List.not_all_eq_any_not, ← List.not_all_eq_any_not, Bool.not_inj_iff] at hany
  unfold Tally.allOf
  rw [hall]
  exact (Agree.sum h).add (.refl _)

end Tally

/-! ## Schemas and rules -/

/-- Schemas under which all documents have outcomes that agree. -/
def Constraint.Alike (c c' : Constraint) : Prop :=
  ∀ (follow : Follow) (doc : Json) (path : List String),
    (check follow c doc path).Agree (check follow c' doc path)

/-- Rules under which all documents have outcomes that agree. -/
def Rule.Alike (r r' : Rule) : Prop :=
  ∀ (follow : Follow) (doc : Json) (path : List String),
    (checkRule follow r doc path).Agree (checkRule follow r' doc path)

/-- The same is admitted for the rest, up to schemas that agree. -/
inductive Rest.Alike : Rest → Rest → Prop
  | anything : Alike .anything .anything
  | nothing : Alike .nothing .nothing
  | schema {s s' : Constraint} (h : s.Alike s') : Alike (.schema s) (.schema s')

/-- Schemas that agree, under the same name or pattern. -/
def AlikeAt {κ : Type} (p p' : κ × Constraint) : Prop := p.1 = p'.1 ∧ p.2.Alike p'.2

/-- A schema agrees with itself. -/
lemma Constraint.Alike.refl (c : Constraint) : c.Alike c := fun _ _ _ => .refl _

/-- A rule agrees with itself. -/
lemma Rule.Alike.refl (r : Rule) : r.Alike r := fun _ _ _ => .refl _

/-- What is said about the rest agrees with itself. -/
lemma Rest.Alike.refl : ∀ rest : Rest, rest.Alike rest
  | .anything => .anything
  | .nothing => .nothing
  | .schema s => .schema (.refl s)

/-- Lists that are related one by one are empty or not together. -/
lemma isEmpty_eq_of_forall₂ {α β : Type} {R : α → β → Prop} {xs : List α} {ys : List β}
    (h : List.Forall₂ R xs ys) : xs.isEmpty = ys.isEmpty := by
  cases h <;> rfl

/-- Outcomes for the same things agree if they do for each thing. -/
lemma forall₂_map {α : Type} {g g' : α → Tally} {xs : List α}
    (h : ∀ x ∈ xs, (g x).Agree (g' x)) : List.Forall₂ Tally.Agree (xs.map g) (xs.map g') := by
  rw [List.forall₂_map_left_iff, List.forall₂_map_right_iff, List.forall₂_same]
  exact h

section

variable (follow : Follow)

/-- Rules that agree one by one have outcomes that agree one by one. -/
lemma forall₂_checkRules {rs rs' : List Rule} (h : List.Forall₂ Rule.Alike rs rs') (doc : Json)
    (path : List String) :
    List.Forall₂ Tally.Agree (checkRules follow rs doc path) (checkRules follow rs' doc path) := by
  induction h with
  | nil => exact .nil
  | cons hhead _ ih =>
    rw [checkRules, checkRules]
    exact .cons (hhead follow doc path) ih

/-- Schemas that agree one by one have outcomes that agree one by one. -/
lemma forall₂_checkAll {ss ss' : List Constraint} (h : List.Forall₂ Constraint.Alike ss ss')
    (doc : Json) (path : List String) :
    List.Forall₂ Tally.Agree (checkAll follow ss doc path) (checkAll follow ss' doc path) := by
  induction h with
  | nil => exact .nil
  | cons hhead _ ih =>
    rw [checkAll, checkAll]
    exact .cons (hhead follow doc path) ih

/-- The same for declared properties.

**Proof sketch.** Induction on the two lists: the names are the same, so the same members are
compared. -/
lemma forall₂_checkProperties {ps ps' : List (String × Constraint)}
    (h : List.Forall₂ AlikeAt ps ps') (members : List (String × Json)) (path : List String) :
    List.Forall₂ Tally.Agree (checkProperties follow ps members path)
      (checkProperties follow ps' members path) := by
  induction h with
  | nil => exact .nil
  | @cons p p' ps ps' hhead _ ih =>
    obtain ⟨name, s⟩ := p
    obtain ⟨name', s'⟩ := p'
    obtain ⟨rfl, hs⟩ : name = name' ∧ s.Alike s' := hhead
    rw [checkProperties, checkProperties]
    split
    · exact .cons (hs follow _ _) ih
    · exact ih

/-- The same for patterns.

**Proof sketch.** Induction on the two lists: the patterns are the same, so they match the same
names. -/
lemma forall₂_checkPatterns {qs qs' : List (Pattern × Constraint)}
    (h : List.Forall₂ AlikeAt qs qs') (name : String) (doc : Json) (path : List String) :
    List.Forall₂ Tally.Agree (checkPatterns follow qs name doc path)
      (checkPatterns follow qs' name doc path) := by
  induction h with
  | nil => exact .nil
  | @cons q q' qs qs' hhead _ ih =>
    obtain ⟨p, s⟩ := q
    obtain ⟨p', s'⟩ := q'
    obtain ⟨rfl, hs⟩ : p = p' ∧ s.Alike s' := hhead
    rw [checkPatterns, checkPatterns]
    split
    · exact .cons (hs follow _ _) ih
    · exact ih

/-- The same for positions.

**Proof sketch.** Induction on the two lists, with the items going along. -/
lemma forall₂_checkPositions {ss ss' : List Constraint} (h : List.Forall₂ Constraint.Alike ss ss')
    (i : Nat) (items : List Json) (path : List String) :
    List.Forall₂ Tally.Agree (checkPositions follow ss i items path)
      (checkPositions follow ss' i items path) := by
  induction h generalizing i items with
  | nil =>
    rw [checkPositions]
    · exact .nil
    · simp
  | cons hhead _ ih =>
    cases items with
    | nil =>
      rw [checkPositions, checkPositions]
      · exact .nil
      all_goals simp
    | cons v items =>
      rw [checkPositions, checkPositions]
      exact .cons (hhead follow _ _) (ih _ _)

/-- The same for one schema and several items. -/
lemma forall₂_overItems {s s' : Constraint} (h : s.Alike s') (path : List String) (i : Nat)
    (items : List Json) :
    List.Forall₂ Tally.Agree (overItems (check follow s) path i items)
      (overItems (check follow s') path i items) := by
  induction items generalizing i with
  | nil => exact .nil
  | cons v items ih =>
    rw [overItems, overItems]
    exact .cons (h follow _ _) (ih _)

/-- The rest agrees if its schemas do. -/
lemma agree_checkRest {rest rest' : Rest} (h : rest.Alike rest') (cause : Cause)
    (outer : List String) (doc : Json) (path : List String) :
    (checkRest follow rest cause outer doc path).Agree
      (checkRest follow rest' cause outer doc path) := by
  cases h with
  | anything | nothing => exact .refl _
  | schema h => exact h follow doc path

end

/-- **Schemas agree if their rules do.** -/
lemma Constraint.alike_rules {kinds : List Kind} {rs rs' : List Rule}
    (h : List.Forall₂ Rule.Alike rs rs') :
    (Constraint.rules kinds rs).Alike (.rules kinds rs') := by
  intro follow doc path
  rw [check, check]
  split
  · exact (Tally.Agree.refl _).add (.sum (forall₂_checkRules follow h doc path))
  · exact .refl _

namespace Rule

/-- Rules about members agree if their schemas do.

**Proof sketch.** The declared names and the patterns are the same on both sides, so a member is
claimed by the same schemas. Member by member the outcomes then agree. -/
lemma alike_members {ps ps' : List (String × Constraint)} {qs qs' : List (Pattern × Constraint)}
    {rest rest' : Rest} (hps : List.Forall₂ AlikeAt ps ps') (hqs : List.Forall₂ AlikeAt qs qs')
    (hrest : rest.Alike rest') : (Rule.members ps qs rest).Alike (.members ps' qs' rest') := by
  intro follow doc path
  cases doc with
  | obj members =>
    have hnames : ∀ k : String, ps.any (·.1 == k) = ps'.any (·.1 == k) := by
      intro k
      clear hqs hrest
      induction hps with
      | nil => rfl
      | cons hhead _ ih => rw [List.any_cons, List.any_cons, hhead.1, ih]
    rw [checkRule, checkRule]
    refine (Tally.Agree.sum (forall₂_checkProperties follow hps members path)).add
      (.sum (forall₂_map fun m _ => ?_))
    obtain ⟨k, v⟩ := m
    have hmatched := forall₂_checkPatterns follow hqs k v (k :: path)
    simp only [isEmpty_eq_of_forall₂ hmatched, hnames]
    split
    · exact (Tally.Agree.refl _).add (.sum hmatched)
    · split
      · exact .refl _
      · exact agree_checkRest follow hrest _ _ _ _
  | _ => exact .refl _

/-- Rules about the names of members agree if their schemas do. -/
lemma alike_propertyNames {s s' : Constraint} (h : s.Alike s') :
    (propertyNames s).Alike (propertyNames s') := by
  intro follow doc path
  cases doc with
  | obj members => exact .sum (forall₂_map fun m _ => (h follow _ _).guarded _ _)
  | _ => exact .refl _

/-- Rules about what a member depends on agree if their schemas do. -/
lemma alike_dependentSchema {s s' : Constraint} (h : s.Alike s') (name : String) :
    (dependentSchema name s).Alike (dependentSchema name s') := by
  intro follow doc path
  cases doc with
  | obj members =>
    rw [checkRule, checkRule]
    split
    · exact h follow _ _
    · exact .refl _
  | _ => exact .refl _

/-- Rules about each item agree if their schemas do. -/
lemma alike_each {s s' : Constraint} (h : s.Alike s') : (each s).Alike (each s') := by
  intro follow doc path
  cases doc with
  | arr items => exact .sum (forall₂_overItems follow h path 0 items)
  | _ => exact .refl _

/-- Rules about items by position agree if their schemas do.

**Proof sketch.** The lists are of one length, so the same items have a schema by position, and the
same ones stand behind them. -/
lemma alike_positions {ss ss' : List Constraint} {rest rest' : Rest}
    (hss : List.Forall₂ Constraint.Alike ss ss') (hrest : rest.Alike rest') :
    (positions ss rest).Alike (positions ss' rest') := by
  intro follow doc path
  cases doc with
  | arr items =>
    have hlength := hss.length_eq
    have hempty := isEmpty_eq_of_forall₂ hss
    have hsum := Tally.Agree.sum (forall₂_checkPositions follow hss 0 items path)
    cases hrest with
    | anything | nothing =>
      simp only [checkRule, hlength, hempty]
      exact hsum.add (.refl _)
    | schema h =>
      simp only [checkRule, hlength, hempty]
      refine hsum.add ?_
      split
      · exact .refl _
      · exact .sum (forall₂_overItems follow h path _ _)
  | _ => exact .refl _

/-- Rules about some item agree if their schemas do. -/
lemma alike_containsOne {s s' : Constraint} (h : s.Alike s') :
    (containsOne s).Alike (containsOne s') := by
  intro follow doc path
  cases doc with
  | arr items => exact .anyOf (forall₂_overItems follow h path 0 items) path _
  | _ => exact .refl _

/-- A condition on numbers is checked alike if it is the same condition. -/
lemma agree_checkNumber {holds holds' : Decimal.Ratio → Bool} (h : ∀ r, holds r = holds' r)
    (doc : Json) (path : List String) (cause cause' : Cause) :
    (checkNumber doc path cause holds).Agree (checkNumber doc path cause' holds') := by
  unfold checkNumber
  split
  · split
    · rw [h]
      exact Tally.agree_require _ _ _ _
    · exact .refl _
  · exact .refl _

/-- Divisors of the same value agree. -/
lemma alike_multipleOf {r r' : Decimal.Ratio} (h : r.Same r') :
    (multipleOf r).Alike (multipleOf r') :=
  fun _ doc path => agree_checkNumber h.isMultipleOf_eq doc path _ _

/-- Bounds of the same value agree. -/
lemma alike_bound {r r' : Decimal.Ratio} (h : r.Same r') (side : Side) :
    (bound side r).Alike (bound side r') :=
  fun _ doc path => agree_checkNumber (h.admits_eq side) doc path _ _

section

variable {ss ss' : List Constraint} (h : List.Forall₂ Constraint.Alike ss ss')
include h

/-- Alternatives agree one by one. -/
lemma alike_anyOf : (anyOf ss).Alike (anyOf ss') :=
  fun follow doc path => .anyOf (forall₂_checkAll follow h doc path) path _

/-- Alternatives of which one is asked for agree one by one. -/
lemma alike_oneOf : (oneOf ss).Alike (oneOf ss') :=
  fun follow doc path => .oneOf (forall₂_checkAll follow h doc path) path

/-- Schemas that all have to hold agree one by one. -/
lemma alike_allOf : (allOf ss).Alike (allOf ss') :=
  fun follow doc path => .allOf (forall₂_checkAll follow h doc path) path

end

/-- Negations agree if their schemas do. -/
lemma alike_negation {s s' : Constraint} (h : s.Alike s') : (negation s).Alike (negation s') :=
  fun follow doc path => (h follow doc path).negate path

/-- Conditions agree if their schemas do. -/
lemma alike_conditional {t t' s s' u u' : Constraint} (ht : t.Alike t') (hs : s.Alike s')
    (hu : u.Alike u') : (conditional t s u).Alike (conditional t' s' u') := by
  intro follow doc path
  rw [checkRule, checkRule, (ht follow doc path).isValid_eq]
  refine (ht follow doc path).trace.add ?_
  split
  · exact (hs follow doc path).guarded _ _
  · exact (hu follow doc path).guarded _ _

end Rule

end Validation

end SchemaKit
