import SchemaKit.Proofs.Validation.Agreement
import SchemaKit.Proofs.Validation.Parts
import SchemaKit.Proofs.Validation.Portable

/-!
# Reading schemas that passed through doubles

A schema without references is compiled the same way wherever it stands: nothing else is looked at.
If its numbers survive as doubles, then what it is compiled to agrees with what it is compiled to
after it has passed through them.

## Main definitions

* `SchemaKit.Validation.Matches`, `SchemaKit.Validation.Mirrors` — if one reading succeeds then
  another one does, with a related result; neither of them touches the pool.
* `SchemaKit.Validation.Build.Alike` — keywords that say the same so far.
* `SchemaKit.Validation.Rereads` — what is read from a value agrees with what is read after it has
  passed through doubles.

## Main results

* `SchemaKit.Validation.rereads` — this holds for every value that can be moved: a schema is
  compiled to one that agrees.
-/

namespace SchemaKit.Validation

open Json

/-! ## Readings that go together -/

section

variable {α β γ δ : Type} {R : α → β → Prop} {S : γ → δ → Prop}

/-- If the first result is there then so is the second one, and they are related. -/
def Matches (R : α → β → Prop) (x : Except Defect α) (y : Except Defect β) : Prop :=
  ∀ a, x = .ok a → ∃ b, y = .ok b ∧ R a b

/-- Results that are there match if they are related. -/
lemma matches_ok {a : α} {b : β} (h : R a b) : Matches R (.ok a) (.ok b) := by
  intro a' ha'
  cases ha'
  exact ⟨b, rfl, h⟩

/-- A result that is not there matches anything. -/
lemma matches_error (d : Defect) (y : Except Defect β) : Matches R (.error d) y := nofun

/-- Functions of matching results match. -/
lemma Matches.map {x : Except Defect α} {y : Except Defect β} (h : Matches R x y) {f : α → γ}
    {g : β → δ} (hfg : ∀ a b, R a b → S (f a) (g b)) : Matches S (x.map f) (y.map g) := by
  intro c hc
  obtain ⟨a, ha, rfl⟩ := map_eq_ok_iff.1 hc
  obtain ⟨b, rfl, hab⟩ := h a ha
  exact ⟨g b, rfl, hfg a b hab⟩

/-- If the first reading succeeds then so does the second one, from every pool, and the results are
related. Neither of them touches the pool. -/
def Mirrors (R : α → β → Prop) (x : Reading α) (y : Reading β) : Prop :=
  ∀ (pool : Pool) (r : α × Pool), x pool = .ok r →
    r.2 = pool ∧ ∃ b, R r.1 b ∧ ∀ pool', y pool' = .ok (b, pool')

/-- Values that are there mirror each other if they are related. -/
lemma mirrors_pure {a : α} {b : β} (h : R a b) : Mirrors R (pure a) (pure b) := by
  intro pool r hr
  cases hr
  exact ⟨rfl, b, h, fun _ => rfl⟩

/-- A failure is mirrored by anything. -/
lemma mirrors_throw (d : Defect) (y : Reading β) : Mirrors R (throw d) y := by
  intro pool r hr
  cases hr

/-- One reading after the other.

**Proof sketch.** The first readings agree and leave the pool as it is, so the second ones start
from values that agree. -/
lemma Mirrors.bind {x : Reading α} {y : Reading β} {f : α → Reading γ} {g : β → Reading δ}
    (hxy : Mirrors R x y) (hfg : ∀ a b, R a b → Mirrors S (f a) (g b)) :
    Mirrors S (x >>= f) (y >>= g) := by
  intro pool r hr
  obtain ⟨⟨a, pool₁⟩, ha, hf⟩ := bind_eq_ok_iff (x := x pool) (f := fun p => f p.1 p.2) |>.1 hr
  obtain ⟨rfl, b, hab, hb⟩ := hxy pool _ ha
  obtain ⟨hpool, c, hrc, hc⟩ := hfg a b hab _ r hf
  refine ⟨hpool, c, hrc, fun pool' => ?_⟩
  change (y pool').bind (fun p => g p.1 p.2) = _
  rw [hb pool']
  exact hc pool'

/-- Steps that do not look at the pool.

**Proof sketch.** Neither of the two steps looks at the pool or changes it. -/
lemma mirrors_liftM {x : Except Defect α} {y : Except Defect β} (h : Matches R x y) :
    Mirrors R (liftM x) (liftM y) := by
  intro pool r hr
  cases hx : x with
  | error d =>
    rw [hx] at hr
    cases hr
  | ok a =>
    rw [hx] at hr
    cases hr
    obtain ⟨b, rfl, hab⟩ := h a hx
    exact ⟨rfl, b, hab, fun _ => rfl⟩

end

/-! ## Numbers -/

/-- The denominator of a literal's fraction is positive, and the fraction is the literal's value. -/
lemma ratio_eq_amount (n : Numeral) :
    0 < n.ratio.2 ∧ (n.ratio.1 : ℚ) / n.ratio.2 = n.amount := by
  by_cases h : n.coefficient = 0
  · simp [Numeral.ratio, h, (Numeral.amount_eq_zero_iff n).2 h]
  · exact (Numeral.ratio_spec h).2

/-- **A literal that survives has the same exact value as before.**

**Proof sketch.** Both literals denote the quotient of their ratio, and they denote the same number
with the same sign. So the cross products agree. -/
lemma same_of_survives {n : Numeral} (h : n.Survives) :
    Decimal.Ratio.Same ⟨n.signed.1, n.signed.2⟩ ⟨n.rounded.signed.1, n.rounded.signed.2⟩ := by
  obtain ⟨hpos, hvalue⟩ := ratio_eq_amount n
  obtain ⟨hpos', hvalue'⟩ := ratio_eq_amount n.rounded
  have hden : (n.ratio.2 : ℚ) ≠ 0 := by exact_mod_cast hpos.ne'
  have hden' : (n.rounded.ratio.2 : ℚ) ≠ 0 := by exact_mod_cast hpos'.ne'
  have hcross : n.ratio.1 * n.rounded.ratio.2 = n.rounded.ratio.1 * n.ratio.2 := by
    have heq := hvalue.trans (h.2.symm.trans hvalue'.symm)
    rw [div_eq_div_iff hden hden'] at heq
    exact_mod_cast heq
  refine ⟨hpos, hpos', ?_⟩
  simp only [Numeral.signed, Numeral.negative_rounded h.1]
  split
  · rw [neg_mul, neg_mul]
    exact_mod_cast congrArg Neg.neg (congrArg (Nat.cast (R := ℤ)) hcross)
  · exact_mod_cast hcross

section

variable {v : Json}

/-- The exact value of a number that survives. -/
lemma ratioOf?_rounded (hv : v.Survives) {r : Decimal.Ratio} (h : ratioOf? v = some r) :
    ∃ r', ratioOf? v.rounded = some r' ∧ r.Same r' := by
  cases hv with
  | @num n hn =>
    rw [ratioOf?] at h
    split at h
    · next hexact =>
      cases h
      exact ⟨_, by rw [rounded, ratioOf?, if_pos (hn.isExact hexact)], same_of_survives hn⟩
    · cases h
  | _ => cases h

/-- A number with an exact value still has one. -/
lemma matches_refuseInexact (hv : v.Survives) :
    Matches (fun _ _ => refuseInexact v = .ok ()) (refuseInexact v) (refuseInexact v.rounded) := by
  intro u hu
  refine ⟨(), ?_, hu⟩
  cases hv with
  | @num n hn =>
    rw [refuseInexact] at hu
    split at hu
    · next hexact => rw [rounded, refuseInexact, if_pos (hn.isExact hexact)]
    · cases hu
  | _ => rfl

/-- Bounds of the same value are read. -/
lemma matches_readBound (hv : v.Survives) (key : Keyword) :
    Matches Decimal.Ratio.Same (readBound key v) (readBound key v.rounded) := by
  unfold readBound
  cases h : ratioOf? v with
  | none => exact matches_error _ _
  | some r =>
    obtain ⟨r', hr', hsame⟩ := ratioOf?_rounded hv h
    rw [hr']
    exact matches_ok hsame

/-- Divisors of the same value are read.

**Proof sketch.** The fraction that is read afterwards has the same value, and so the same sign. -/
lemma matches_readDivisor (hv : v.Survives) :
    Matches Decimal.Ratio.Same (readDivisor v) (readDivisor v.rounded) := by
  unfold readDivisor
  cases h : ratioOf? v with
  | none => exact matches_error _ _
  | some r =>
    obtain ⟨r', hr', hsame⟩ := ratioOf?_rounded hv h
    have hsign : r.num ≤ 0 ↔ r'.num ≤ 0 := by
      have hden : (0 : ℤ) < r.den := by exact_mod_cast hsame.den_pos
      have hden' : (0 : ℤ) < r'.den := by exact_mod_cast hsame.den_pos'
      rw [← not_lt, ← not_lt, ← mul_pos_iff_of_pos_right hden', hsame.cross,
        mul_pos_iff_of_pos_right hden]
    rw [hr']
    simp only [hsign]
    split
    · exact matches_error _ _
    · exact matches_ok hsame

/-- An inclusive and an exclusive bound that are there, with the same values, on both sides or on
none. -/
def SameBounds (p p' : Option Decimal.Ratio × Option Decimal.Ratio) : Prop :=
  Option.Rel Decimal.Ratio.Same p.1 p'.1 ∧ Option.Rel Decimal.Ratio.Same p.2 p'.2

/-- Exclusive bounds of the same value are read.

**Proof sketch.** By the kind of value: a flag turns the inclusive bound into an exclusive one, and
a number is a bound of its own. It stays exact by `isExact`. -/
lemma matches_readExclusive (hv : v.Survives) (e : Edition) (key other : Keyword)
    {inclusive inclusive' : Option Decimal.Ratio}
    (h : Option.Rel Decimal.Ratio.Same inclusive inclusive')
    (hexact : refuseInexact v = .ok ()) :
    Matches SameBounds
      (readExclusive e key other inclusive v) (readExclusive e key other inclusive' v.rounded) := by
  cases hv with
  | bool on =>
    rw [rounded_bool]
    dsimp only [readExclusive]
    split
    · exact matches_error _ _
    · split
      · exact matches_ok ⟨h, .none⟩
      · cases h with
        | some hsame => exact matches_ok ⟨.none, .some hsame⟩
        | none => exact matches_error _ _
  | @num n hn =>
    have hn' : n.isExact = true := by
      by_contra hinexact
      rw [refuseInexact, if_neg hinexact] at hexact
      cases hexact
    rw [rounded_num]
    simp only [readExclusive, hn', hn.isExact hn', ratioOf?, if_true]
    split
    · exact matches_error _ _
    · split
      · exact matches_error _ _
      · exact matches_ok ⟨h, .some (same_of_survives hn)⟩
  | _ => exact matches_error _ _

/-- The same counts are read.

**Proof sketch.** Only a number is a count, and a plain integer comes out as the same integer. -/
lemma matches_readCount (hv : v.Survives) (key : Keyword) :
    Matches Eq (readCount key v) (readCount key v.rounded) := by
  cases hv with
  | @num n hn =>
    rw [rounded, readCount, readCount]
    cases h : n.int64? with
    | none => exact matches_error _ _
    | some i =>
      rw [hn.int64?_eq h]
      dsimp only
      split
      · exact matches_error _ _
      · exact matches_ok rfl
  | _ => exact matches_error _ _

/-- The same largest counts are read.

**Proof sketch.** The count is the same by `matches_readCount`, and it is compared with the same
least count. -/
lemma matches_readMost (hv : v.Survives) (key lesser : Keyword) (least : Option Nat) :
    Matches Eq (readMost key lesser least v) (readMost key lesser least v.rounded) := by
  unfold readMost
  cases h : readCount key v with
  | error d => exact matches_error _ _
  | ok n =>
    obtain ⟨n', hn', rfl⟩ := matches_readCount hv key n h
    rw [hn']
    dsimp only
    split
    · exact matches_error _ _
    · exact matches_ok rfl

end

/-! ## Lists of texts and values -/

/-- The same names are read.

**Proof sketch.** Induction on the items: a text stays what it is, and anything else is refused. -/
lemma matches_readNames (seen : List String) (items : List Json) :
    Matches Eq (readNames seen items) (readNames seen (items.map rounded)) := by
  induction items generalizing seen with
  | nil => exact matches_ok rfl
  | cons v rest ih =>
    cases v with
    | str s =>
      simp only [List.map_cons, rounded_str, readNames]
      split
      · exact matches_error _ _
      · exact ih _
    | num n =>
      rw [readNames]
      split <;> exact matches_error _ _
    | _ => exact matches_error _ _

/-- The same names that a member depends on are read.

**Proof sketch.** Induction on the items: a text stays what it is, and anything else is refused. -/
lemma matches_readDependency (seen : List String) (items : List Json) :
    Matches Eq (readDependency seen items) (readDependency seen (items.map rounded)) := by
  induction items generalizing seen with
  | nil => exact matches_ok rfl
  | cons v rest ih =>
    cases v with
    | str s => exact ih _
    | num n =>
      by_cases hexact : n.isExact = true <;>
        simp only [readDependency, ratioOf?, hexact, if_true, Bool.false_eq_true, if_false] <;>
        exact matches_error _ _
    | _ => exact matches_error _ _

/-- The same canonical texts are read.

**Proof sketch.** Induction on the items, each of which has the same canonical text. -/
lemma matches_readValues {items : List Json} (h : ∀ v ∈ items, v.Survives) (seen : List String) :
    Matches Eq (readValues seen items) (readValues seen (items.map rounded)) := by
  induction items generalizing seen with
  | nil => exact matches_ok rfl
  | cons v rest ih =>
    rw [List.forall_mem_cons] at h
    rw [List.map_cons, readValues, readValues, h.1.canonicalText?_rounded]
    split
    · exact matches_error _ _
    · split
      · exact matches_error _ _
      · exact ih h.2 _

/-! ## Keywords -/

/-- Keywords that say the same so far. -/
structure Build.Alike (b b' : Build) : Prop where
  hasId : b.hasId = b'.hasId
  target : b.target = b'.target
  stopped : b.stopped = b'.stopped
  kinds : b.kinds = b'.kinds
  properties : List.Forall₂ AlikeAt b.properties b'.properties
  patterns : List.Forall₂ AlikeAt b.patterns b'.patterns
  restMembers : b.restMembers.Alike b'.restMembers
  positions : List.Forall₂ Constraint.Alike b.positions b'.positions
  restItems : b.restItems.Alike b'.restItems
  minimum : Option.Rel Decimal.Ratio.Same b.minimum b'.minimum
  exclusiveMinimum : Option.Rel Decimal.Ratio.Same b.exclusiveMinimum b'.exclusiveMinimum
  maximum : Option.Rel Decimal.Ratio.Same b.maximum b'.maximum
  exclusiveMaximum : Option.Rel Decimal.Ratio.Same b.exclusiveMaximum b'.exclusiveMaximum
  minLength : b.minLength = b'.minLength
  minProperties : b.minProperties = b'.minProperties
  minItems : b.minItems = b'.minItems
  test : Option.Rel Constraint.Alike b.test b'.test
  consequence : b.consequence.Alike b'.consequence
  alternative : b.alternative.Alike b'.alternative
  rules : List.Forall₂ Rule.Alike b.rules b'.rules

namespace Build

/-- No keywords say the same.

**Proof sketch.** All parts are empty on both sides. -/
lemma alike_empty : ({} : Build).Alike {} where
  hasId := rfl
  target := rfl
  stopped := rfl
  kinds := rfl
  properties := .nil
  patterns := .nil
  restMembers := .anything
  positions := .nil
  restItems := .anything
  minimum := .none
  exclusiveMinimum := .none
  maximum := .none
  exclusiveMaximum := .none
  minLength := rfl
  minProperties := rfl
  minItems := rfl
  test := .none
  consequence := .refl _
  alternative := .refl _
  rules := .nil

variable {b b' : Build}

/-- Rules that agree are added to both. -/
lemma Alike.add (h : b.Alike b') {r r' : Rule} (hr : r.Alike r') : (b.add r).Alike (b'.add r') :=
  { h with rules := .cons hr h.rules }

/-- A combined schema is added to both, unless there are no alternatives. -/
lemma Alike.addUnlessEmpty (h : b.Alike b') {ss ss' : List Constraint}
    (hss : List.Forall₂ Constraint.Alike ss ss') {r r' : Rule} (hr : r.Alike r') :
    (if ss.isEmpty then b else b.add r).Alike (if ss'.isEmpty then b' else b'.add r') := by
  rw [isEmpty_eq_of_forall₂ hss]
  split
  · exact h
  · exact h.add hr

/-- A rule about members is made on both sides or on none.

**Proof sketch.** By whether there are properties, patterns or something said about the rest, which
is so on both sides or on none. -/
lemma Alike.memberRules (h : b.Alike b') :
    List.Forall₂ Rule.Alike b.memberRules b'.memberRules := by
  have hmembers := Rule.alike_members h.properties h.patterns h.restMembers
  have hproperties := h.properties
  have hpatterns := h.patterns
  have hrest := h.restMembers
  clear h
  unfold Build.memberRules
  generalize b.properties = ps at *
  generalize b'.properties = ps' at *
  generalize b.patterns = qs at *
  generalize b'.patterns = qs' at *
  generalize b.restMembers = rest at *
  generalize b'.restMembers = rest' at *
  cases hproperties with
  | cons => exact .cons hmembers .nil
  | nil =>
    cases hpatterns with
    | cons => exact .cons hmembers .nil
    | nil =>
      cases hrest with
      | anything => exact .nil
      | nothing | schema => exact .cons hmembers .nil

/-- Rules about items by position are made on both sides or on none. -/
lemma Alike.itemRules (h : b.Alike b') : List.Forall₂ Rule.Alike b.itemRules b'.itemRules := by
  unfold Build.itemRules
  rw [isEmpty_eq_of_forall₂ h.positions]
  split
  · exact .nil
  · exact .cons (Rule.alike_positions h.positions h.restItems) .nil

/-- A bound is there on both sides or on none. -/
lemma forall₂_bound {r r' : Option Decimal.Ratio} (h : Option.Rel Decimal.Ratio.Same r r')
    (side : Side) :
    List.Forall₂ Rule.Alike (r.map (Rule.bound side)).toList (r'.map (Rule.bound side)).toList := by
  cases h with
  | some hsame => exact .cons (Rule.alike_bound hsame side) .nil
  | none => exact .nil

/-- Rules about bounds agree. -/
lemma Alike.boundRules (h : b.Alike b') : List.Forall₂ Rule.Alike b.boundRules b'.boundRules :=
  List.rel_append (List.rel_append (List.rel_append (forall₂_bound h.minimum _)
    (forall₂_bound h.exclusiveMinimum _)) (forall₂_bound h.maximum _))
    (forall₂_bound h.exclusiveMaximum _)

/-- Rules about conditions agree. -/
lemma Alike.conditionRules (h : b.Alike b') :
    List.Forall₂ Rule.Alike b.conditionRules b'.conditionRules := by
  have htest := h.test
  unfold Build.conditionRules
  generalize b.test = test at htest ⊢
  generalize b'.test = test' at htest ⊢
  cases htest with
  | some htest => exact .cons (Rule.alike_conditional htest h.consequence h.alternative) .nil
  | none => exact .nil

/-- **Keywords that say the same make up constraints that agree.** -/
lemma Alike.finish (h : b.Alike b') : b.finish.Alike b'.finish := by
  unfold Build.finish
  rw [h.target, h.kinds]
  split
  · exact .refl _
  · exact Constraint.alike_rules (List.rel_append (List.rel_append (List.rel_append
      (List.rel_append h.memberRules h.itemRules) h.boundRules) h.conditionRules)
      (List.rel_reverse h.rules))

end Build

section

variable {b b' : Build}

/-- The same kind is added. -/
lemma matches_addKind (hb : b.Alike b') (name : String) :
    Matches Build.Alike (addKind b name) (addKind b' name) := by
  unfold addKind
  rw [hb.kinds]
  split
  · exact matches_error _ _
  · split
    · exact matches_error _ _
    · exact matches_ok { hb with kinds := rfl }

/-- The same kinds are added.

**Proof sketch.** Induction on the kinds that are named. -/
lemma matches_addKinds (hb : b.Alike b') (items : List Json) :
    Matches Build.Alike (addKinds b items) (addKinds b' (items.map rounded)) := by
  induction items generalizing b b' with
  | nil => exact matches_ok hb
  | cons v rest ih =>
    cases v with
    | str s =>
      rw [List.map_cons, rounded_str, addKinds, addKinds]
      cases h : addKind b s with
      | error d => exact matches_error _ _
      | ok b₁ =>
        obtain ⟨b₁', hb₁', hb₁⟩ := matches_addKind hb s b₁ h
        rw [hb₁']
        exact ih hb₁
    | _ => exact matches_error _ _

/-- The same identifiers are admitted.

**Proof sketch.** By whether the identifier counts in the edition. If it does, it is a text and
stays what it is. -/
lemma matches_readId (hb : b.Alike b') (e : Edition) (key : Keyword) (v : Json) :
    Matches Build.Alike (readId e key b v) (readId e key b' v.rounded) := by
  unfold readId
  rw [hb.hasId]
  extract_lets counts
  clear_value counts
  cases counts with
  | false => exact matches_ok hb
  | true =>
    cases v with
    | str s =>
      rw [rounded_str]
      dsimp only
      cases Uri.parse s with
      | ok u => exact matches_ok { hb with hasId := rfl }
      | error f => exact matches_error _ _
    | _ => exact matches_error _ _

/-- Functions of equal results match. -/
lemma Matches.map_eq {α : Type} {x y : Except Defect α} (h : Matches Eq x y) {f g : α → Build}
    (hfg : ∀ a, (f a).Alike (g a)) : Matches Build.Alike (x.map f) (y.map g) :=
  h.map fun a _ heq => heq ▸ hfg a

section

variable (hb : b.Alike b') (e : Edition)

include hb

/-- Titles and descriptions are texts as before. -/
lemma matches_readText (key : Keyword) (v : Json) :
    Matches Build.Alike ((textOf key v).map fun _ => b) ((textOf key v.rounded).map fun _ => b') := by
  cases v with
  | str s => exact matches_ok hb
  | _ => exact matches_error _ _

/-- The same kinds are read, one of them or several. -/
lemma matches_readType (v : Json) :
    Matches Build.Alike (readPlain e .type v b) (readPlain e .type v.rounded b') := by
  cases v with
  | str s => exact matches_addKind hb s
  | arr items =>
    rw [rounded_arr]
    exact matches_addKinds hb items
  | _ => exact matches_error _ _

/-- The same pattern is read. -/
lemma matches_readPattern (v : Json) :
    Matches Build.Alike (readPlain e .pattern v b) (readPlain e .pattern v.rounded b') := by
  cases v with
  | str s =>
    rw [rounded_str]
    dsimp only [readPlain]
    split
    · exact matches_ok (hb.add (.refl _))
    · exact matches_error _ _
  | _ => exact matches_error _ _

/-- The same format is read. -/
lemma matches_readFormat (v : Json) :
    Matches Build.Alike (readPlain e .format v b) (readPlain e .format v.rounded b') := by
  cases v with
  | str s => exact matches_ok (hb.add (.refl _))
  | _ => exact matches_error _ _

/-- The same names are required. -/
lemma matches_readRequired (v : Json) :
    Matches Build.Alike (readPlain e .required v b) (readPlain e .required v.rounded b') := by
  cases v with
  | arr items =>
    rw [rounded_arr]
    exact (matches_readNames [] items).map_eq fun names => hb.add (.refl _)
  | _ => exact matches_error _ _

/-- Items are asked to be distinct as before. -/
lemma matches_readDistinct (v : Json) :
    Matches Build.Alike (readPlain e .uniqueItems v b) (readPlain e .uniqueItems v.rounded b') := by
  cases v with
  | bool on =>
    cases on
    · exact matches_ok hb
    · exact matches_ok (hb.add (.refl _))
  | _ => exact matches_error _ _

variable {v : Json} (hv : v.Survives)

include hv

/-- The same value is read, in its canonical text. -/
lemma matches_readConst :
    Matches Build.Alike (readPlain e .const v b) (readPlain e .const v.rounded b') := by
  dsimp only [readPlain]
  rw [hv.canonicalText?_rounded]
  split
  · exact matches_ok hb
  · split
    · exact matches_ok (hb.add (.refl _))
    · exact matches_error _ _

/-- The same values are read, in their canonical texts. -/
lemma matches_readEnum :
    Matches Build.Alike (readPlain e .enum v b) (readPlain e .enum v.rounded b') := by
  cases hv with
  | @arr items hitems =>
    rw [rounded_arr]
    refine (matches_readValues hitems []).map_eq fun texts => ?_
    split
    · exact hb
    · exact hb.add (.refl _)
  | _ => exact matches_error _ _

/-- **A keyword whose value holds no schemas says the same as before.**

**Proof sketch.** By cases on the keyword. Texts, names and truth values are not changed by rounding at
all; numbers that survive have the same exact values; and other values are looked at in their canonical
texts, which are the same. -/
lemma matches_readPlain {key : Keyword} (hexact : key.asksKind = true → refuseInexact v = .ok ()) :
    Matches Build.Alike (readPlain e key v b) (readPlain e key v.rounded b') := by
  cases key
  case oldId => exact matches_readId hb e .oldId v
  case newId => exact matches_readId hb e .newId v
  case title => exact matches_readText hb .title v
  case description => exact matches_readText hb .description v
  case type => exact matches_readType hb e v
  case multipleOf =>
    exact (matches_readDivisor hv).map fun r r' h => hb.add (Rule.alike_multipleOf h)
  case minimum => exact (matches_readBound hv _).map fun r r' h => { hb with minimum := .some h }
  case maximum => exact (matches_readBound hv _).map fun r r' h => { hb with maximum := .some h }
  case exclusiveMinimum =>
    exact (matches_readExclusive hv e _ _ hb.minimum (hexact rfl)).map fun p p' h =>
      { hb with minimum := h.1, exclusiveMinimum := h.2 }
  case exclusiveMaximum =>
    exact (matches_readExclusive hv e _ _ hb.maximum (hexact rfl)).map fun p p' h =>
      { hb with maximum := h.1, exclusiveMaximum := h.2 }
  case minLength =>
    exact (matches_readCount hv _).map_eq fun n =>
      { hb.add (.refl (.least .length n)) with minLength := rfl }
  case minProperties =>
    exact (matches_readCount hv _).map_eq fun n =>
      { hb.add (.refl (.least .properties n)) with minProperties := rfl }
  case minItems =>
    exact (matches_readCount hv _).map_eq fun n =>
      { hb.add (.refl (.least .items n)) with minItems := rfl }
  case maxLength =>
    rw [readPlain, readPlain, hb.minLength]
    exact (matches_readMost hv _ _ _).map_eq fun n => hb.add (.refl _)
  case maxProperties =>
    rw [readPlain, readPlain, hb.minProperties]
    exact (matches_readMost hv _ _ _).map_eq fun n => hb.add (.refl _)
  case maxItems =>
    rw [readPlain, readPlain, hb.minItems]
    exact (matches_readMost hv _ _ _).map_eq fun n => hb.add (.refl _)
  case pattern => exact matches_readPattern hb e v
  case format => exact matches_readFormat hb e v
  case required => exact matches_readRequired hb e v
  case uniqueItems => exact matches_readDistinct hb e v
  case const => exact matches_readConst hb e hv
  case enum => exact matches_readEnum hb e hv
  all_goals exact matches_ok hb

end

end

/-! ## Schemas -/

/-- References stand under one name. -/
lemma eq_of_ofName?_eq_reference {name : String} (h : Keyword.ofName? name = some .reference) :
    name = "$ref" := by
  simpa [Keyword.table] using mem_of_lookup?_eq_some h

/-- The rest is admitted or not as before. -/
lemma plainRest?_rounded (v : Json) : plainRest? v.rounded = plainRest? v := by
  cases v <;> rfl

/-- Arrays stay arrays. -/
lemma itemsOf?_rounded (v : Json) : itemsOf? v.rounded = (itemsOf? v).map (List.map rounded) := by
  cases v with
  | arr items => rw [rounded_arr, itemsOf?, itemsOf?, Option.map_some]
  | _ => rfl

/-- Schemas keep their form. -/
lemma isSchemaForm_rounded (v : Json) : isSchemaForm v.rounded = isSchemaForm v := by
  cases v <;> rfl

/-- A value that is no reference where references stand is a defect. -/
lemma readReference_mirrors {follow follow' : String → Reading Unit} {b b' : Build} {v : Json}
    (hv : Portable (.obj [("$ref", v)])) :
    Mirrors Build.Alike (readReference follow b v) (readReference follow' b' v.rounded) := by
  cases hv.unlinked with
  | obj _ href =>
    cases v with
    | str s => exact absurd List.mem_cons_self (href s)
    | _ => exact mirrors_throw _ _

section

variable (e : Edition) (follow follow' : String → Reading Unit)

/-- Whatever is read from a value agrees with what is read after the value has passed through
doubles, in each of the roles that a value can have. -/
structure Rereads (v : Json) : Prop where
  schema : ∀ otherwise, Mirrors Constraint.Alike (compile e follow otherwise v)
    (compile e follow' otherwise v.rounded)
  definitions : Mirrors Eq (compileDefinitions e follow v) (compileDefinitions e follow' v.rounded)
  properties : Mirrors (List.Forall₂ AlikeAt) (compileProperties e follow v)
    (compileProperties e follow' v.rounded)
  patterns : Mirrors (List.Forall₂ AlikeAt) (compilePatterns e follow v)
    (compilePatterns e follow' v.rounded)
  dependencies : ∀ {b b' : Build}, b.Alike b' →
    Mirrors Build.Alike (compileDependencies e follow v b)
      (compileDependencies e follow' v.rounded b')
  items : ∀ otherwise, Mirrors (List.Forall₂ Constraint.Alike) (compileItems e follow otherwise v)
    (compileItems e follow' otherwise v.rounded)
  list : ∀ key, Mirrors (List.Forall₂ Constraint.Alike) (compileList e follow key v)
    (compileList e follow' key v.rounded)

variable {e follow follow'}

/-- Schemas by name agree.

**Proof sketch.** Induction on the entries. -/
lemma compileEntries_mirrors (otherwise : Defect) {entries : List (String × Json)}
    (h : ∀ m ∈ entries, Rereads e follow follow' m.2) :
    Mirrors (List.Forall₂ AlikeAt) (compileEntries e follow otherwise entries)
      (compileEntries e follow' otherwise (entries.map fun m => (m.1, m.2.rounded))) := by
  induction entries with
  | nil =>
    rw [List.map_nil, compileEntries, compileEntries]
    exact mirrors_pure .nil
  | cons entry rest ih =>
    rw [List.forall_mem_cons] at h
    rw [List.map_cons, compileEntries, compileEntries]
    exact (h.1.schema otherwise).bind fun s s' hs =>
      (ih h.2).bind fun ps ps' hps => mirrors_pure (.cons ⟨rfl, hs⟩ hps)

/-- Schemas by pattern agree.

**Proof sketch.** Induction on the entries. The patterns are names, which rounding does not change. -/
lemma compilePatternEntries_mirrors {entries : List (String × Json)}
    (h : ∀ m ∈ entries, Rereads e follow follow' m.2) :
    Mirrors (List.Forall₂ AlikeAt) (compilePatternEntries e follow entries)
      (compilePatternEntries e follow' (entries.map fun m => (m.1, m.2.rounded))) := by
  induction entries with
  | nil =>
    rw [List.map_nil, compilePatternEntries, compilePatternEntries]
    exact mirrors_pure .nil
  | cons entry rest ih =>
    rw [List.forall_mem_cons] at h
    rw [List.map_cons, compilePatternEntries, compilePatternEntries]
    split
    · exact mirrors_throw _ _
    · exact (h.1.schema _).bind fun s s' hs =>
        (ih h.2).bind fun qs qs' hqs => mirrors_pure (.cons ⟨rfl, hs⟩ hqs)

/-- What members depend on agrees.

**Proof sketch.** Induction on the entries. A list of names is read by `matches_readDependency`, and
anything else as a schema. -/
lemma compileDependencyEntries_mirrors {entries : List (String × Json)}
    (h : ∀ m ∈ entries, Rereads e follow follow' m.2) {b b' : Build} (hb : b.Alike b') :
    Mirrors Build.Alike (compileDependencyEntries e follow entries b)
      (compileDependencyEntries e follow' (entries.map fun m => (m.1, m.2.rounded)) b') := by
  induction entries generalizing b b' with
  | nil =>
    rw [List.map_nil, compileDependencyEntries, compileDependencyEntries]
    exact mirrors_pure hb
  | cons entry rest ih =>
    rw [List.forall_mem_cons] at h
    rw [List.map_cons, compileDependencyEntries, compileDependencyEntries, itemsOf?_rounded,
      isSchemaForm_rounded]
    simp only [pure_bind]
    cases itemsOf? entry.2 with
    | some items =>
      refine (mirrors_liftM (matches_readDependency [] items)).bind fun names names' hnames => ?_
      subst hnames
      exact ih h.2 (hb.add (.refl _))
    | none =>
      dsimp only [Option.map_none]
      split
      · exact (h.1.schema _).bind fun s s' hs =>
          ih h.2 (hb.add (Rule.alike_dependentSchema hs entry.1))
      · exact Mirrors.bind (R := fun _ _ => False) (mirrors_throw _ _) fun _ _ h => h.elim

/-- The schemas of a list agree.

**Proof sketch.** Induction on the items. -/
lemma compileAll_mirrors (otherwise : Defect) {items : List Json}
    (h : ∀ v ∈ items, Rereads e follow follow' v) :
    Mirrors (List.Forall₂ Constraint.Alike) (compileAll e follow otherwise items)
      (compileAll e follow' otherwise (items.map rounded)) := by
  induction items with
  | nil =>
    rw [List.map_nil, compileAll, compileAll]
    exact mirrors_pure .nil
  | cons v rest ih =>
    rw [List.forall_mem_cons] at h
    rw [List.map_cons, compileAll, compileAll]
    exact (h.1.schema otherwise).bind fun s s' hs =>
      (ih h.2).bind fun ss ss' hss => mirrors_pure (.cons hs hss)

/-! ### Keywords with schemas -/

section

variable {b b' : Build} {v : Json}

/-- A keyword with one schema says the same. -/
lemma Rereads.bind_schema (h : Rereads e follow follow' v) (otherwise : Defect)
    {f f' : Constraint → Build} (hf : ∀ s s', s.Alike s' → (f s).Alike (f' s')) :
    Mirrors Build.Alike (compile e follow otherwise v >>= fun s => pure (f s))
      (compile e follow' otherwise v.rounded >>= fun s => pure (f' s)) :=
  (h.schema otherwise).bind fun s s' hs => mirrors_pure (hf s s' hs)

/-- A keyword with one schema that came with a later edition says the same, or nothing.

**Proof sketch.** By whether the keyword is known in the edition. -/
lemma Rereads.bind_schemaUnless (h : Rereads e follow follow' v) (hb : b.Alike b') (isOld : Bool)
    (otherwise : Defect) {f f' : Constraint → Build}
    (hf : ∀ s s', s.Alike s' → (f s).Alike (f' s')) :
    Mirrors Build.Alike
      (if isOld = true then pure b else compile e follow otherwise v >>= fun s => pure (f s))
      (if isOld = true then pure b' else
        compile e follow' otherwise v.rounded >>= fun s => pure (f' s)) := by
  split
  · exact mirrors_pure hb
  · exact h.bind_schema otherwise hf

/-- A keyword with alternatives says the same. -/
lemma Rereads.bind_list (h : Rereads e follow follow' v) (hb : b.Alike b') (key : Keyword)
    {rule : List Constraint → Rule}
    (hrule : ∀ {ss ss'}, List.Forall₂ Constraint.Alike ss ss' → (rule ss).Alike (rule ss')) :
    Mirrors Build.Alike
      (compileList e follow key v >>= fun ss => pure (if ss.isEmpty then b else b.add (rule ss)))
      (compileList e follow' key v.rounded >>= fun ss =>
        pure (if ss.isEmpty then b' else b'.add (rule ss))) :=
  (h.list key).bind fun _ _ hss => mirrors_pure (hb.addUnlessEmpty hss (hrule hss))

/-- What is said about the rest of a container is the same.

**Proof sketch.** What is said about the rest without a schema is a flag, which rounding does not
change. -/
lemma Rereads.bind_rest (h : Rereads e follow follow' v) (otherwise : Defect)
    {f f' : Rest → Build} (hf : ∀ r r', r.Alike r' → (f r).Alike (f' r')) :
    Mirrors Build.Alike
      (match plainRest? v with
        | some rest => pure (f rest)
        | none => compile e follow otherwise v >>= fun s => pure (f (.schema s)))
      (match plainRest? v.rounded with
        | some rest => pure (f' rest)
        | none => compile e follow' otherwise v.rounded >>= fun s => pure (f' (.schema s))) := by
  rw [plainRest?_rounded]
  split
  · exact mirrors_pure (hf _ _ (.refl _))
  · exact h.bind_schema otherwise fun s s' hs => hf _ _ (.schema hs)

/-- Items say the same, as one schema for all of them or as one for each position.

**Proof sketch.** A list stays a list, and anything else is one schema. -/
lemma Rereads.bind_items (h : Rereads e follow follow' v) (hb : b.Alike b') (otherwise : Defect) :
    Mirrors Build.Alike
      (if (itemsOf? v).isSome = true then
        compileItems e follow otherwise v >>= fun ss => pure { b with positions := ss }
      else compile e follow otherwise v >>= fun s => pure (b.add (.each s)))
      (if (itemsOf? v.rounded).isSome = true then
        compileItems e follow' otherwise v.rounded >>= fun ss => pure { b' with positions := ss }
      else compile e follow' otherwise v.rounded >>= fun s => pure (b'.add (.each s))) := by
  rw [itemsOf?_rounded, Option.isSome_map]
  split
  · exact (h.items _).bind fun ss ss' hss => mirrors_pure { hb with positions := hss }
  · exact h.bind_schema otherwise fun s s' hs => hb.add (Rule.alike_each hs)

end

/-- **One keyword says the same.**

**Proof sketch.** By cases on the keyword. Behind the question whether a number has an exact value, each
of them reads a value in one of the roles of `Rereads`, and puts what it has read in one place. -/
lemma compileKeyword_mirrors {name : String} {v : Json} (hm : Portable (.obj [(name, v)]))
    (h : Rereads e follow follow' v) {b b' : Build} (hb : b.Alike b') :
    Mirrors Build.Alike (compileMembers e follow [(name, v)] b)
      (compileMembers e follow' [(name, v.rounded)] b') := by
  by_cases hstop : b.stopped = true
  · rw [compileMembers_of_stopped e follow hstop,
      compileMembers_of_stopped e follow' (hb.stopped ▸ hstop)]
    exact mirrors_pure hb
  have hstop' : ¬b'.stopped = true := hb.stopped ▸ hstop
  have hv : Portable v := hm.of_mem_obj (m := (name, v)) List.mem_cons_self
  have hkind := mirrors_liftM (matches_refuseInexact hv.survives)
  rw [compileMembers, compileMembers, if_neg hstop, if_neg hstop']
  cases hkey : Keyword.ofName? name with
  | none =>
    simp only [compileMembers]
    exact mirrors_pure hb
  | some key =>
    cases key
    all_goals
      simp only [Keyword.asksKind, if_true, Bool.false_eq_true, if_false, compileMembers, pure_bind,
        bind_pure]
    case reference =>
      obtain rfl := eq_of_ofName?_eq_reference hkey
      exact hkind.bind fun _ _ _ => readReference_mirrors hm
    case definitions =>
      exact hkind.bind fun _ _ _ => h.definitions.bind fun _ _ _ => mirrors_pure hb
    case properties =>
      exact hkind.bind fun _ _ _ => h.properties.bind fun ps ps' hps =>
        mirrors_pure { hb with properties := hps }
    case patternProperties =>
      exact hkind.bind fun _ _ _ => h.patterns.bind fun qs qs' hqs =>
        mirrors_pure { hb with patterns := hqs }
    case dependencies => exact hkind.bind fun _ _ _ => h.dependencies hb
    case additionalProperties =>
      exact hkind.bind fun _ _ _ => h.bind_rest _ fun r r' hr => { hb with restMembers := hr }
    case additionalItems =>
      exact hkind.bind fun _ _ _ => h.bind_rest _ fun r r' hr => { hb with restItems := hr }
    case items => exact hkind.bind fun _ _ _ => h.bind_items hb _
    case propertyNames =>
      exact hkind.bind fun _ _ _ => h.bind_schemaUnless hb _ _ fun s s' hs =>
        hb.add (Rule.alike_propertyNames hs)
    case contains =>
      exact hkind.bind fun _ _ _ => h.bind_schemaUnless hb _ _ fun s s' hs =>
        hb.add (Rule.alike_containsOne hs)
    case condition =>
      exact hkind.bind fun _ _ _ => h.bind_schemaUnless hb _ _ fun s s' hs =>
        { hb with test := .some hs }
    case consequence =>
      exact hkind.bind fun _ _ _ => h.bind_schemaUnless hb _ _ fun s s' hs =>
        { hb with consequence := hs }
    case alternative =>
      exact hkind.bind fun _ _ _ => h.bind_schemaUnless hb _ _ fun s s' hs =>
        { hb with alternative := hs }
    case negation =>
      exact hkind.bind fun _ _ _ => h.bind_schema _ fun s s' hs => hb.add (Rule.alike_negation hs)
    case oneOf => exact hkind.bind fun _ _ _ => h.bind_list hb _ Rule.alike_oneOf
    case anyOf => exact hkind.bind fun _ _ _ => h.bind_list hb _ Rule.alike_anyOf
    case allOf => exact hkind.bind fun _ _ _ => h.bind_list hb _ Rule.alike_allOf
    all_goals
      first
      | exact mirrors_liftM (matches_readPlain hb e hv.survives fun h => (Bool.false_ne_true h).elim)
      | exact hkind.bind fun _ _ hexact =>
          mirrors_liftM (matches_readPlain hb e hv.survives fun _ => hexact)

/-- Keywords say the same.

**Proof sketch.** Induction on the members, with `compileKeyword_mirrors` for the first one. -/
lemma compileMembers_mirrors {members : List (String × Json)} (hv : Portable (.obj members))
    (h : ∀ m ∈ members, Rereads e follow follow' m.2) {b b' : Build} (hb : b.Alike b') :
    Mirrors Build.Alike (compileMembers e follow members b)
      (compileMembers e follow' (members.map fun m => (m.1, m.2.rounded)) b') := by
  induction members generalizing b b' with
  | nil =>
    rw [List.map_nil, compileMembers, compileMembers]
    exact mirrors_pure hb
  | cons m rest ih =>
    rw [List.forall_mem_cons] at h
    rw [List.map_cons, compileMembers_cons, compileMembers_cons e follow']
    exact (compileKeyword_mirrors (hv.of_subset_obj (by simp)) h.1 hb).bind fun b b' hb =>
      ih (hv.of_subset_obj (by simp)) h.2 hb

/-- **A value that can be moved is read as before after it has passed through doubles**, whatever
stands around it.

**Proof sketch.** Induction on the value, as `readsPeopled`: a list is read item by item, an object
member by member, and anything else is refused on both sides. -/
theorem rereads {v : Json} (hv : Portable v) : Rereads e follow follow' v := by
  induction v using Json.induction with
  | null | num | str =>
    exact {
      schema := fun otherwise => by
        simp only [rounded, compile]
        exact (mirrors_liftM (matches_refuseInexact hv.survives)).bind fun _ _ _ =>
          mirrors_throw _ _
      definitions := mirrors_throw _ _
      properties := mirrors_throw _ _
      patterns := mirrors_throw _ _
      dependencies := fun _ => mirrors_throw _ _
      items := fun _ => mirrors_throw _ _
      list := fun _ => mirrors_throw _ _ }
  | bool pass =>
    exact {
      schema := fun _ => by
        rw [rounded_bool, compile, compile]
        split
        · exact mirrors_pure (.refl _)
        · exact mirrors_throw _ _
      definitions := mirrors_throw _ _
      properties := mirrors_throw _ _
      patterns := mirrors_throw _ _
      dependencies := fun _ => mirrors_throw _ _
      items := fun _ => mirrors_throw _ _
      list := fun _ => mirrors_throw _ _ }
  | arr items ih =>
    have hitems : ∀ w ∈ items, Rereads e follow follow' w := fun w hw => ih w hw (hv.of_mem_arr hw)
    exact {
      schema := fun otherwise => by
        simp only [rounded, compile]
        exact (mirrors_liftM (matches_refuseInexact hv.survives)).bind fun _ _ _ =>
          mirrors_throw _ _
      definitions := mirrors_throw _ _
      properties := mirrors_throw _ _
      patterns := mirrors_throw _ _
      dependencies := fun _ => mirrors_throw _ _
      items := fun otherwise => by
        rw [rounded_arr, compileItems, compileItems]
        exact compileAll_mirrors otherwise hitems
      list := fun key => by
        rw [rounded_arr, compileList, compileList]
        exact compileAll_mirrors _ hitems }
  | obj members ih =>
    have hmembers : ∀ m ∈ members, Rereads e follow follow' m.2 := fun m hm =>
      ih m hm (hv.of_mem_obj hm)
    exact {
      schema := fun _ => by
        rw [rounded_obj, compile, compile]
        exact (compileMembers_mirrors hv hmembers Build.alike_empty).bind fun b b' hb =>
          mirrors_pure hb.finish
      definitions := by
        rw [rounded_obj, compileDefinitions, compileDefinitions]
        exact (compileEntries_mirrors _ hmembers).bind fun _ _ _ => mirrors_pure rfl
      properties := by
        rw [rounded_obj, compileProperties, compileProperties]
        exact compileEntries_mirrors _ hmembers
      patterns := by
        rw [rounded_obj, compilePatterns, compilePatterns]
        exact compilePatternEntries_mirrors hmembers
      dependencies := fun hb => by
        rw [rounded_obj, compileDependencies, compileDependencies]
        exact compileDependencyEntries_mirrors hmembers hb
      items := fun _ => mirrors_throw _ _
      list := fun _ => mirrors_throw _ _ }

end

end SchemaKit.Validation
