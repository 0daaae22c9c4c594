import Mathlib.Tactic.Common
import SchemaKit.Proofs.Results
import SchemaKit.Validation.Compile

/-!
# The parts of compiled schemas

A rule may report through the outcomes of its parts. Alternatives do so through the best one;
without any alternatives there is none. Such combinations are never compiled: an empty list of
alternatives is left out. This module shows it for everything that a compiled schema holds.

## Main definitions

* `SchemaKit.Validation.Rule.HasPart` — the schemas that a rule reports on.
* `SchemaKit.Validation.Constraint.Peopled` — every combination that is met has alternatives.
* `SchemaKit.Validation.Yields` — what reading a schema yields, if it succeeds.
* `SchemaKit.Validation.ReadsPeopled` — whatever is read from a value is peopled.

## Main results

* `SchemaKit.Validation.readsPeopled` — this holds for every value.
* `SchemaKit.Validation.peopled_of_ofDocument` — documents are compiled into peopled schemas, with
  all that their references lead to.
-/

namespace SchemaKit.Validation

/-! ## Parts -/

/-- Rules that never report through the outcomes of their parts. -/
def Rule.IsPlain : Rule → Prop
  | .members _ _ _ | .positions _ _ | .dependentSchema _ _ | .each _ | .anyOf _ | .oneOf _
  | .allOf _ => False
  | _ => True

/-- The schemas that a rule reports on through their own outcomes. -/
inductive Rule.HasPart : Rule → Constraint → Prop
  | property {ps qs rest p} (h : p ∈ ps) : HasPart (.members ps qs rest) p.2
  | pattern {ps qs rest q} (h : q ∈ qs) : HasPart (.members ps qs rest) q.2
  | other {ps qs s} : HasPart (.members ps qs (.schema s)) s
  | dependent {name s} : HasPart (.dependentSchema name s) s
  | item {s} : HasPart (.each s) s
  | position {schemas rest s} (h : s ∈ schemas) : HasPart (.positions schemas rest) s
  | further {schemas s} : HasPart (.positions schemas (.schema s)) s
  | any {schemas s} (h : s ∈ schemas) : HasPart (.anyOf schemas) s
  | one {schemas s} (h : s ∈ schemas) : HasPart (.oneOf schemas) s
  | all {schemas s} (h : s ∈ schemas) : HasPart (.allOf schemas) s

/-- A part is smaller than the rule.

**Proof sketch.** By the kind of part: it stands in a list of the rule, or in the rule itself. -/
lemma Rule.HasPart.sizeOf_lt {r : Rule} {s : Constraint} (h : r.HasPart s) :
    sizeOf s < sizeOf r := by
  cases h with
  | @property ps qs rest p h =>
    have hp := List.sizeOf_lt_of_mem h
    obtain ⟨name, s⟩ := p
    simp only [Rule.members.sizeOf_spec, Prod.mk.sizeOf_spec] at hp ⊢
    omega
  | @pattern ps qs rest q h =>
    have hq := List.sizeOf_lt_of_mem h
    obtain ⟨p, s⟩ := q
    simp only [Rule.members.sizeOf_spec, Prod.mk.sizeOf_spec] at hq ⊢
    omega
  | position h | any h | one h | all h =>
    have hs := List.sizeOf_lt_of_mem h
    simp only [Rule.positions.sizeOf_spec, Rule.anyOf.sizeOf_spec, Rule.oneOf.sizeOf_spec,
      Rule.allOf.sizeOf_spec]
    omega
  | other | dependent | item | further =>
    simp only [Rule.members.sizeOf_spec, Rule.dependentSchema.sizeOf_spec, Rule.each.sizeOf_spec,
      Rule.positions.sizeOf_spec, Rest.schema.sizeOf_spec]
    omega

/-- A combination without alternatives. -/
def Rule.IsDeserted (r : Rule) : Prop := r = .anyOf [] ∨ r = .oneOf []

/-- A schema in which every combination that a check can go down to has alternatives. -/
inductive Constraint.Peopled : Constraint → Prop
  | always (pass : Bool) : Peopled (.always pass)
  | reference (target : String) : Peopled (.reference target)
  | rules {kinds : List Kind} {rules : List Rule} (hrules : ∀ r ∈ rules, ¬r.IsDeserted)
      (hparts : ∀ r ∈ rules, ∀ s, r.HasPart s → Peopled s) : Peopled (.rules kinds rules)

/-- A rule that has alternatives where it needs them, and so have its parts. -/
def Rule.Peopled (r : Rule) : Prop := ¬r.IsDeserted ∧ ∀ s, r.HasPart s → s.Peopled

/-- A schema is peopled if its rules are. -/
lemma Constraint.peopled_rules {kinds : List Kind} {rules : List Rule}
    (h : ∀ r ∈ rules, r.Peopled) : (Constraint.rules kinds rules).Peopled :=
  .rules (fun r hr => (h r hr).1) fun r hr => (h r hr).2

/-- A rule without parts is peopled. -/
lemma Rule.IsPlain.peopled {r : Rule} (h : r.IsPlain) : r.Peopled := by
  refine ⟨?_, fun s hs => ?_⟩
  · rintro (rfl | rfl) <;> exact h
  · cases hs <;> exact h.elim

/-- A rule about each item is peopled if its schema is. -/
lemma Rule.peopled_each {s : Constraint} (h : s.Peopled) : (Rule.each s).Peopled := by
  refine ⟨by simp [IsDeserted], fun s' hs' => ?_⟩
  cases hs'
  exact h

/-- A rule about what a member depends on is peopled if its schema is. -/
lemma Rule.peopled_dependentSchema {name : String} {s : Constraint} (h : s.Peopled) :
    (Rule.dependentSchema name s).Peopled := by
  refine ⟨by simp [IsDeserted], fun s' hs' => ?_⟩
  cases hs'
  exact h

/-- A combined schema with alternatives is peopled if they are. -/
lemma Rule.peopled_combined {r : Rule} {ss : List Constraint} (hne : ss ≠ [])
    (hss : ∀ s ∈ ss, s.Peopled) (hr : r = .anyOf ss ∨ r = .oneOf ss ∨ r = .allOf ss) :
    r.Peopled := by
  refine ⟨?_, fun s hs => ?_⟩
  · obtain rfl | rfl | rfl := hr <;> simp [IsDeserted, hne]
  · obtain rfl | rfl | rfl := hr
    all_goals
      cases hs
      exact hss s ‹_›

/-! ## Readings -/

/-- All schemas that references led to are peopled. -/
def Pool.Peopled (pool : Pool) : Prop := ∀ d ∈ pool.finished, d.2.Peopled

section

variable {α β : Type}

/-- A reading that succeeds yields what is asked for, and keeps the pool peopled. -/
def Yields (x : Reading α) (Q : α → Prop) : Prop :=
  ∀ pool : Pool, pool.Peopled → ∀ r, x pool = .ok r → Q r.1 ∧ r.2.Peopled

/-- A value that is there yields itself. -/
lemma yields_pure {Q : α → Prop} {a : α} (h : Q a) : Yields (pure a) Q := by
  intro pool hpool r hr
  cases hr
  exact ⟨h, hpool⟩

/-- A failure yields anything. -/
lemma yields_throw {Q : α → Prop} (d : Defect) : Yields (throw d) Q := by
  intro pool hpool r hr
  cases hr

/-- One reading after the other.

**Proof sketch.** The first reading leaves a peopled pool, which is what the second one starts from. -/
lemma Yields.bind {x : Reading α} {f : α → Reading β} {P : α → Prop} {Q : β → Prop}
    (hx : Yields x P) (hf : ∀ a, P a → Yields (f a) Q) : Yields (x >>= f) Q := by
  intro pool hpool r hr
  change (x pool).bind (fun p => f p.1 p.2) = .ok r at hr
  cases hxr : x pool with
  | error d =>
    rw [hxr] at hr
    cases hr
  | ok p =>
    rw [hxr] at hr
    obtain ⟨hp, hpool'⟩ := hx pool hpool p hxr
    exact hf p.1 hp p.2 hpool' r hr

/-- A step that does not look at the pool. -/
lemma yields_liftM {x : Except Defect α} {Q : α → Prop} (h : ∀ a, x = .ok a → Q a) :
    Yields (liftM x) Q := by
  intro pool hpool r hr
  cases hx : x with
  | error d =>
    rw [hx] at hr
    cases hr
  | ok a =>
    rw [hx] at hr
    cases hr
    exact ⟨h a hx, hpool⟩

/-- A step that does not look at the pool, and whose result does not matter. -/
lemma yields_liftM_true (x : Except Defect α) : Yields (liftM x) fun _ => True :=
  yields_liftM fun _ _ => trivial

end

/-! ## Keywords -/

/-- What the keywords of one schema say so far is peopled. -/
structure Build.Peopled (b : Build) : Prop where
  properties : ∀ p ∈ b.properties, p.2.Peopled
  patterns : ∀ q ∈ b.patterns, q.2.Peopled
  restMembers : ∀ s, b.restMembers = .schema s → s.Peopled
  positions : ∀ s ∈ b.positions, s.Peopled
  restItems : ∀ s, b.restItems = .schema s → s.Peopled
  rules : ∀ r ∈ b.rules, r.Peopled

namespace Build

/-- No keywords are peopled. -/
lemma peopled_empty : ({} : Build).Peopled where
  properties := by simp
  patterns := by simp
  restMembers := by simp
  positions := by simp
  restItems := by simp
  rules := by simp

variable {b : Build}

/-- Adding a peopled rule. -/
lemma Peopled.add (hb : b.Peopled) {r : Rule} (hr : r.Peopled) : (b.add r).Peopled :=
  { hb with rules := List.forall_mem_cons.2 ⟨hr, hb.rules⟩ }

/-- Rules about members are peopled.

**Proof sketch.** There is at most one such rule, and its parts are properties, patterns or the
rest. -/
lemma Peopled.memberRules (hb : b.Peopled) : ∀ r ∈ b.memberRules, r.Peopled := by
  intro r hr
  have hr : r = .members b.properties b.patterns b.restMembers := by
    unfold Build.memberRules at hr
    split at hr <;> simp_all
  subst hr
  refine ⟨by simp [Rule.IsDeserted], fun s hs => ?_⟩
  generalize hrest : b.restMembers = rest at hs
  cases hs with
  | property h => exact hb.properties _ h
  | pattern h => exact hb.patterns _ h
  | other => exact hb.restMembers _ hrest

/-- Rules about items by position are peopled.

**Proof sketch.** There is at most one such rule, and its parts are the schemas by position or the
rest. -/
lemma Peopled.itemRules (hb : b.Peopled) : ∀ r ∈ b.itemRules, r.Peopled := by
  intro r hr
  have hr : r = .positions b.positions b.restItems := by
    unfold Build.itemRules at hr
    split at hr <;> simp_all
  subst hr
  refine ⟨by simp [Rule.IsDeserted], fun s hs => ?_⟩
  generalize hrest : b.restItems = rest at hs
  cases hs with
  | position h => exact hb.positions _ h
  | further => exact hb.restItems _ hrest

/-- Rules about bounds and conditions have no parts. -/
lemma isPlain_of_mem {r : Rule} (h : r ∈ b.boundRules ++ b.conditionRules) : r.IsPlain := by
  simp only [Build.boundRules, Build.conditionRules, List.mem_append, Option.mem_toList,
    Option.map_eq_some_iff] at h
  obtain (((⟨_, -, rfl⟩ | ⟨_, -, rfl⟩) | ⟨_, -, rfl⟩) | ⟨_, -, rfl⟩) | ⟨_, -, rfl⟩ := h <;>
    exact trivial

/-- The constraint that peopled keywords make up is peopled.

**Proof sketch.** The rules come from members, items, bounds, conditions and those that were read,
and each group has its own lemma. -/
lemma Peopled.finish (hb : b.Peopled) : b.finish.Peopled := by
  unfold Build.finish
  split
  · exact .reference _
  · refine Constraint.peopled_rules fun r hr => ?_
    simp only [List.append_assoc, List.mem_append, List.mem_reverse] at hr
    obtain hr | hr | hr | hr | hr := hr
    · exact hb.memberRules r hr
    · exact hb.itemRules r hr
    · exact (isPlain_of_mem (List.mem_append_left _ hr)).peopled
    · exact (isPlain_of_mem (List.mem_append_right _ hr)).peopled
    · exact hb.rules r hr

/-- Adding a rule without parts. -/
lemma Peopled.addPlain (hb : b.Peopled) {r : Rule} (hr : r.IsPlain) : (b.add r).Peopled :=
  hb.add hr.peopled

end Build

section

variable {b b' : Build}

/-- Kinds hold no schemas. -/
lemma peopled_addKind {name : String} (hb : b.Peopled) (h : addKind b name = .ok b') :
    b'.Peopled := by
  unfold addKind at h
  split at h
  · cases h
  · split at h
    · cases h
    · cases h
      exact { hb with }

/-- Kinds hold no schemas.

**Proof sketch.** Induction on the kinds that are named. -/
lemma peopled_addKinds {names : List Json} (hb : b.Peopled) (h : addKinds b names = .ok b') :
    b'.Peopled := by
  induction names generalizing b with
  | nil =>
    cases h
    exact hb
  | cons v rest ih =>
    cases v with
    | str s =>
      rw [addKinds] at h
      cases hkind : addKind b s with
      | error d =>
        rw [hkind] at h
        cases h
      | ok b₁ =>
        rw [hkind] at h
        exact ih (peopled_addKind hb hkind) h
    | _ => cases h

variable {e : Edition} {v : Json}

/-- An identifier holds no schemas. -/
lemma peopled_readId (key : Keyword) (hb : b.Peopled) (h : readId e key b v = .ok b') :
    b'.Peopled := by
  unfold readId at h
  extract_lets counts at h
  split at h
  · cases h
    exact hb
  · split at h
    · split at h
      · cases h
        exact { hb with }
      · cases h
    · cases h

/-- One kind or several hold no schemas. -/
lemma peopled_readType (hb : b.Peopled) (h : readType b v = .ok b') : b'.Peopled := by
  cases v with
  | str s => exact peopled_addKind hb h
  | arr items => exact peopled_addKinds hb h
  | _ => cases h

/-- A pattern is a rule without parts. -/
lemma peopled_readPattern (hb : b.Peopled) (h : readPlain e .pattern v b = .ok b') :
    b'.Peopled := by
  dsimp only [readPlain] at h
  split at h
  · split at h
    · cases h
      exact hb.addPlain trivial
    · cases h
  · cases h

/-- A format is a rule without parts. -/
lemma peopled_readFormat (hb : b.Peopled) (h : readPlain e .format v b = .ok b') :
    b'.Peopled := by
  dsimp only [readPlain] at h
  split at h
  · cases h
    exact hb.addPlain trivial
  · cases h

/-- Required names are a rule without parts. -/
lemma peopled_readRequired (hb : b.Peopled) (h : readPlain e .required v b = .ok b') :
    b'.Peopled := by
  dsimp only [readPlain] at h
  split at h
  · obtain ⟨names, -, rfl⟩ := map_eq_ok_iff.1 h
    exact hb.addPlain trivial
  · cases h

/-- That items are distinct is a rule without parts. -/
lemma peopled_readDistinct (hb : b.Peopled) (h : readPlain e .uniqueItems v b = .ok b') :
    b'.Peopled := by
  dsimp only [readPlain] at h
  split at h
  · cases h
    split
    · exact hb.addPlain trivial
    · exact hb
  · cases h

/-- The one value that is admitted is a rule without parts. -/
lemma peopled_readConst (hb : b.Peopled) (h : readPlain e .const v b = .ok b') :
    b'.Peopled := by
  dsimp only [readPlain] at h
  split at h
  · cases h
    exact hb
  · split at h
    · cases h
      exact hb.addPlain trivial
    · cases h

/-- The values that are admitted are a rule without parts. -/
lemma peopled_readEnum (hb : b.Peopled) (h : readPlain e .enum v b = .ok b') : b'.Peopled := by
  dsimp only [readPlain] at h
  split at h
  · obtain ⟨texts, -, rfl⟩ := map_eq_ok_iff.1 h
    split
    · exact hb
    · exact hb.addPlain trivial
  · cases h

/-- A keyword whose value holds no schemas adds at most a rule without parts.

**Proof sketch.** By the keyword. A bound is stored, a count is a rule without parts, and every other
keyword with an effect has its own lemma. -/
lemma peopled_readPlain {key : Keyword} (hb : b.Peopled) (h : readPlain e key v b = .ok b') :
    b'.Peopled := by
  cases key
  case oldId => exact peopled_readId .oldId hb h
  case newId => exact peopled_readId .newId hb h
  case type => exact peopled_readType hb h
  case pattern => exact peopled_readPattern hb h
  case format => exact peopled_readFormat hb h
  case required => exact peopled_readRequired hb h
  case uniqueItems => exact peopled_readDistinct hb h
  case const => exact peopled_readConst hb h
  case enum => exact peopled_readEnum hb h
  case title | description =>
    obtain ⟨-, -, rfl⟩ := map_eq_ok_iff.1 h
    exact hb
  case minimum | maximum | exclusiveMinimum | exclusiveMaximum =>
    obtain ⟨r, -, rfl⟩ := map_eq_ok_iff.1 h
    exact { hb with }
  case multipleOf | maxLength | maxProperties | maxItems =>
    obtain ⟨r, -, rfl⟩ := map_eq_ok_iff.1 h
    exact hb.addPlain trivial
  case minLength | minProperties | minItems =>
    obtain ⟨n, -, rfl⟩ := map_eq_ok_iff.1 h
    exact { hb.addPlain (r := .least _ n) trivial with }
  all_goals
    cases h
    exact hb

end

/-- A truth value is no schema for the rest. -/
lemma not_schema_of_plainRest? {v : Json} {rest : Rest} (h : plainRest? v = some rest) :
    ∀ s, rest = .schema s → s.Peopled := by
  rintro s rfl
  cases v with
  | bool on => cases on <;> cases h
  | _ => cases h

/-! ## Schemas -/

section

variable (e : Edition) (follow : String → Reading Unit)

/-- Nothing is read any more once a reference has been followed. -/
lemma compileMembers_of_stopped {b : Build} (h : b.stopped = true)
    (members : List (String × Json)) : compileMembers e follow members b = pure b := by
  cases members with
  | nil => rw [compileMembers]
  | cons m rest => rw [compileMembers, if_pos h]

/-- Keywords are read one by one.

**Proof sketch.** By the keyword: what it adds does not depend on the members behind it. A keyword
that the edition does not know adds nothing. -/
lemma compileMembers_cons (m : String × Json) (rest : List (String × Json)) (b : Build) :
    compileMembers e follow (m :: rest) b =
      compileMembers e follow [m] b >>= compileMembers e follow rest := by
  obtain ⟨name, v⟩ := m
  by_cases hstop : b.stopped = true
  · simp only [compileMembers_of_stopped e follow hstop, pure_bind]
  rw [compileMembers, compileMembers, if_neg hstop, if_neg hstop]
  cases hkey : Keyword.ofName? name with
  | none => simp only [pure_bind, compileMembers]
  | some key =>
    cases key
    case additionalProperties | additionalItems =>
      cases plainRest? v <;>
        simp only [Keyword.asksKind, if_true, bind_assoc, pure_bind, compileMembers]
    case items =>
      by_cases hitems : (itemsOf? v).isSome = true <;>
        simp only [Keyword.asksKind, if_true, bind_assoc, pure_bind, compileMembers, hitems,
          Bool.false_eq_true, if_false]
    case propertyNames | contains =>
      by_cases hsix : (!e.fromSix) = true <;>
        simp only [Keyword.asksKind, if_true, bind_assoc, pure_bind, compileMembers, hsix,
          Bool.false_eq_true, if_false]
    case condition | consequence | alternative =>
      by_cases hseven : (!e.fromSeven) = true <;>
        simp only [Keyword.asksKind, if_true, bind_assoc, pure_bind, compileMembers, hseven,
          Bool.false_eq_true, if_false]
    all_goals
      simp only [Keyword.asksKind, if_true, bind_assoc, pure_bind, compileMembers,
        Bool.false_eq_true, if_false]

variable {e follow}

/-- Following references keeps the pool peopled. -/
def Keeping (follow : String → Reading Unit) : Prop :=
  ∀ target, Yields (follow target) fun _ => True

/-- A reference stands for itself.

**Proof sketch.** By the steps of the reading. A reference that was met before stands for itself,
and one that was not is followed by assumption. -/
lemma readReference_yields (hfollow : Keeping follow) {b : Build} (hb : b.Peopled) (v : Json) :
    Yields (readReference follow b v) Build.Peopled := by
  unfold readReference
  split
  · split
    · exact yields_throw _
    · refine Yields.bind (P := fun _ => True) ?_ fun pool _ => ?_
      · intro pool hpool r hr
        cases hr
        exact ⟨trivial, hpool⟩
      · split
        · exact yields_pure { hb with }
        · refine Yields.bind (P := fun _ => True) ?_ fun _ _ =>
            (hfollow _).bind fun _ _ => yields_pure { hb with }
          intro pool hpool r hr
          cases hr
          exact ⟨trivial, hpool⟩
  · exact yields_throw _

variable (e follow)

/-- Whatever is read from a value is peopled, in each of the roles that a value can have. -/
structure ReadsPeopled (v : Json) : Prop where
  schema : ∀ otherwise, Yields (compile e follow otherwise v) Constraint.Peopled
  definitions : Yields (compileDefinitions e follow v) fun _ => True
  properties : Yields (compileProperties e follow v) fun ps => ∀ p ∈ ps, p.2.Peopled
  patterns : Yields (compilePatterns e follow v) fun qs => ∀ q ∈ qs, q.2.Peopled
  dependencies : ∀ b : Build, b.Peopled →
    Yields (compileDependencies e follow v b) Build.Peopled
  items : ∀ otherwise, Yields (compileItems e follow otherwise v) fun ss => ∀ s ∈ ss, s.Peopled
  list : ∀ key, Yields (compileList e follow key v) fun ss => ∀ s ∈ ss, s.Peopled

variable {e follow}

/-- Schemas by name are compiled into peopled ones.

**Proof sketch.** Induction on the entries. -/
lemma compileEntries_yields (otherwise : Defect) {entries : List (String × Json)}
    (h : ∀ m ∈ entries, ReadsPeopled e follow m.2) :
    Yields (compileEntries e follow otherwise entries) fun ps => ∀ p ∈ ps, p.2.Peopled := by
  induction entries with
  | nil =>
    rw [compileEntries]
    exact yields_pure (by simp)
  | cons entry rest ih =>
    rw [List.forall_mem_cons] at h
    rw [compileEntries]
    exact (h.1.schema otherwise).bind fun s hs =>
      (ih h.2).bind fun ps hps => yields_pure (List.forall_mem_cons.2 ⟨hs, hps⟩)

/-- Schemas by pattern are compiled into peopled ones.

**Proof sketch.** Induction on the entries. A pattern that is not admitted ends the reading. -/
lemma compilePatternEntries_yields {entries : List (String × Json)}
    (h : ∀ m ∈ entries, ReadsPeopled e follow m.2) :
    Yields (compilePatternEntries e follow entries) fun qs => ∀ q ∈ qs, q.2.Peopled := by
  induction entries with
  | nil =>
    rw [compilePatternEntries]
    exact yields_pure (by simp)
  | cons entry rest ih =>
    rw [List.forall_mem_cons] at h
    rw [compilePatternEntries]
    split
    · exact yields_throw _
    · exact (h.1.schema _).bind fun s hs =>
        (ih h.2).bind fun qs hqs => yields_pure (List.forall_mem_cons.2 ⟨hs, hqs⟩)

/-- What members depend on is peopled.

**Proof sketch.** Induction on the entries. A list of names adds a rule without parts, and a schema
one with a peopled part. -/
lemma compileDependencyEntries_yields {entries : List (String × Json)}
    (h : ∀ m ∈ entries, ReadsPeopled e follow m.2) {b : Build} (hb : b.Peopled) :
    Yields (compileDependencyEntries e follow entries b) Build.Peopled := by
  induction entries generalizing b with
  | nil =>
    rw [compileDependencyEntries]
    exact yields_pure hb
  | cons entry rest ih =>
    rw [List.forall_mem_cons] at h
    rw [compileDependencyEntries]
    simp only [pure_bind]
    split
    · exact (yields_liftM_true _).bind fun names _ => ih h.2 (hb.addPlain trivial)
    · split
      · exact (h.1.schema _).bind fun s hs => ih h.2 (hb.add (Rule.peopled_dependentSchema hs))
      · exact Yields.bind (P := fun _ => False) (yields_throw _) fun _ h => h.elim

/-- The schemas of a list are compiled into peopled ones.

**Proof sketch.** Induction on the items. -/
lemma compileAll_yields (otherwise : Defect) {items : List Json}
    (h : ∀ v ∈ items, ReadsPeopled e follow v) :
    Yields (compileAll e follow otherwise items) fun ss => ∀ s ∈ ss, s.Peopled := by
  induction items with
  | nil =>
    rw [compileAll]
    exact yields_pure (by simp)
  | cons v rest ih =>
    rw [List.forall_mem_cons] at h
    rw [compileAll]
    exact (h.1.schema otherwise).bind fun s hs =>
      (ih h.2).bind fun ss hss => yields_pure (List.forall_mem_cons.2 ⟨hs, hss⟩)

section

variable {b : Build} {v : Json}

/-- A keyword with one schema adds what the schema allows. -/
lemma ReadsPeopled.bind_schema (h : ReadsPeopled e follow v) (otherwise : Defect)
    {f : Constraint → Build} (hf : ∀ s : Constraint, s.Peopled → (f s).Peopled) :
    Yields (compile e follow otherwise v >>= fun s => pure (f s)) Build.Peopled :=
  (h.schema otherwise).bind fun s hs => yields_pure (hf s hs)

/-- A keyword with one schema that came with a later edition adds what the schema allows, or nothing. -/
lemma ReadsPeopled.bind_schemaUnless (h : ReadsPeopled e follow v) (hb : b.Peopled) (isOld : Bool)
    (otherwise : Defect) {f : Constraint → Build}
    (hf : ∀ s : Constraint, s.Peopled → (f s).Peopled) :
    Yields (if isOld = true then pure b else compile e follow otherwise v >>= fun s => pure (f s))
      Build.Peopled := by
  split
  · exact yields_pure hb
  · exact h.bind_schema otherwise hf

/-- A keyword with alternatives adds a peopled rule, or nothing if there are none. -/
lemma ReadsPeopled.bind_list (h : ReadsPeopled e follow v) (hb : b.Peopled) (key : Keyword)
    {rule : List Constraint → Rule}
    (hrule : ∀ ss, rule ss = .anyOf ss ∨ rule ss = .oneOf ss ∨ rule ss = .allOf ss) :
    Yields (compileList e follow key v >>= fun ss =>
      pure (if ss.isEmpty then b else b.add (rule ss))) Build.Peopled := by
  refine (h.list key).bind fun ss hss => yields_pure ?_
  split
  · exact hb
  · next hne => exact hb.add (Rule.peopled_combined (by simpa using hne) hss (hrule ss))

/-- What is said about the rest of a container holds a peopled schema, or none. -/
lemma ReadsPeopled.bind_rest (h : ReadsPeopled e follow v) (otherwise : Defect) {f : Rest → Build}
    (hf : ∀ rest : Rest, (∀ s, rest = .schema s → s.Peopled) → (f rest).Peopled) :
    Yields
      (match plainRest? v with
        | some rest => pure (f rest)
        | none => compile e follow otherwise v >>= fun s => pure (f (.schema s)))
      Build.Peopled := by
  split
  · next rest hrest => exact yields_pure (hf rest (not_schema_of_plainRest? hrest))
  · refine h.bind_schema otherwise fun s hs => hf _ fun s' hs' => ?_
    obtain rfl := Rest.schema.inj hs'
    exact hs

/-- Items have one peopled schema for all of them, or one for each position. -/
lemma ReadsPeopled.bind_items (h : ReadsPeopled e follow v) (hb : b.Peopled) (otherwise : Defect) :
    Yields
      (if (itemsOf? v).isSome = true then
        compileItems e follow otherwise v >>= fun ss => pure { b with positions := ss }
      else compile e follow otherwise v >>= fun s => pure (b.add (.each s)))
      Build.Peopled := by
  split
  · exact (h.items _).bind fun ss hss => yields_pure { hb with positions := hss }
  · exact h.bind_schema otherwise fun s hs => hb.add (Rule.peopled_each hs)

end

/-- What one keyword adds is peopled.

**Proof sketch.** By the keyword. Those with schemas in them read their value in one of the ways that
`ReadsPeopled` lists, and all others are `peopled_readPlain`. -/
lemma compileKeyword_yields (hfollow : Keeping follow) (name : String) {v : Json}
    (h : ReadsPeopled e follow v) {b : Build} (hb : b.Peopled) :
    Yields (compileMembers e follow [(name, v)] b) Build.Peopled := by
  by_cases hstop : b.stopped = true
  · rw [compileMembers_of_stopped e follow hstop]
    exact yields_pure hb
  have hkind := yields_liftM_true (refuseInexact v)
  rw [compileMembers, if_neg hstop]
  cases hkey : Keyword.ofName? name with
  | none =>
    simp only [compileMembers]
    exact yields_pure hb
  | some key =>
    cases key
    all_goals
      simp only [Keyword.asksKind, if_true, Bool.false_eq_true, if_false, compileMembers, pure_bind,
        bind_pure]
    case reference => exact hkind.bind fun _ _ => readReference_yields hfollow hb v
    case definitions => exact hkind.bind fun _ _ => h.definitions.bind fun _ _ => yields_pure hb
    case properties =>
      exact hkind.bind fun _ _ =>
        h.properties.bind fun ps hps => yields_pure { hb with properties := hps }
    case patternProperties =>
      exact hkind.bind fun _ _ =>
        h.patterns.bind fun qs hqs => yields_pure { hb with patterns := hqs }
    case dependencies => exact hkind.bind fun _ _ => h.dependencies b hb
    case additionalProperties =>
      exact hkind.bind fun _ _ => h.bind_rest _ fun rest hrest => { hb with restMembers := hrest }
    case additionalItems =>
      exact hkind.bind fun _ _ => h.bind_rest _ fun rest hrest => { hb with restItems := hrest }
    case items => exact hkind.bind fun _ _ => h.bind_items hb _
    case propertyNames | contains =>
      exact hkind.bind fun _ _ => h.bind_schemaUnless hb _ _ fun s _ => hb.addPlain trivial
    case condition | consequence | alternative =>
      exact hkind.bind fun _ _ => h.bind_schemaUnless hb _ _ fun s _ => { hb with }
    case negation => exact hkind.bind fun _ _ => h.bind_schema _ fun s _ => hb.addPlain trivial
    case anyOf => exact hkind.bind fun _ _ => h.bind_list hb _ fun _ => .inl rfl
    case oneOf => exact hkind.bind fun _ _ => h.bind_list hb _ fun _ => .inr (.inl rfl)
    case allOf => exact hkind.bind fun _ _ => h.bind_list hb _ fun _ => .inr (.inr rfl)
    all_goals
      first
      | exact yields_liftM fun b' h => peopled_readPlain hb h
      | exact hkind.bind fun _ _ => yields_liftM fun b' h => peopled_readPlain hb h

/-- What the keywords of a schema say is peopled.

**Proof sketch.** Induction on the members, with `compileKeyword_yields` for the first one. -/
lemma compileMembers_yields (hfollow : Keeping follow) {members : List (String × Json)}
    (h : ∀ m ∈ members, ReadsPeopled e follow m.2) {b : Build} (hb : b.Peopled) :
    Yields (compileMembers e follow members b) Build.Peopled := by
  induction members generalizing b with
  | nil =>
    rw [compileMembers]
    exact yields_pure hb
  | cons m rest ih =>
    rw [List.forall_mem_cons] at h
    rw [compileMembers_cons]
    exact (compileKeyword_yields hfollow m.1 h.1 hb).bind fun b hb => ih h.2 hb

/-- **Whatever is read from a value is peopled.**

**Proof sketch.** Induction on the value. A flag is a schema by itself, a list is read item by item,
an object member by member, and anything else is refused. -/
theorem readsPeopled (hfollow : Keeping follow) (v : Json) : ReadsPeopled e follow v := by
  have hthrow : ∀ {α : Type} {Q : α → Prop} (u : Json) (d : Defect),
      Yields (do refuseInexact u; throw d) Q := fun u d =>
    (yields_liftM_true _).bind fun _ _ => yields_throw d
  induction v using Json.induction with
  | null | num | str =>
    exact {
      schema := fun otherwise => by
        simp only [compile]
        exact hthrow _ otherwise
      definitions := yields_throw _
      properties := yields_throw _
      patterns := yields_throw _
      dependencies := fun _ _ => yields_throw _
      items := fun _ => yields_throw _
      list := fun _ => yields_throw _ }
  | bool pass =>
    exact {
      schema := fun _ => by
        rw [compile]
        split
        · exact yields_pure (.always pass)
        · exact yields_throw _
      definitions := yields_throw _
      properties := yields_throw _
      patterns := yields_throw _
      dependencies := fun _ _ => yields_throw _
      items := fun _ => yields_throw _
      list := fun _ => yields_throw _ }
  | arr items ih =>
    exact {
      schema := fun otherwise => by
        simp only [compile]
        exact hthrow _ otherwise
      definitions := yields_throw _
      properties := yields_throw _
      patterns := yields_throw _
      dependencies := fun _ _ => yields_throw _
      items := fun otherwise => by
        rw [compileItems]
        exact compileAll_yields otherwise ih
      list := fun _ => by
        rw [compileList]
        exact compileAll_yields _ ih }
  | obj members ih =>
    exact {
      schema := fun _ => by
        rw [compile]
        exact (compileMembers_yields hfollow ih Build.peopled_empty).bind fun b hb =>
          yields_pure hb.finish
      definitions := by
        rw [compileDefinitions]
        exact (compileEntries_yields _ ih).bind fun _ _ => yields_pure trivial
      properties := by
        rw [compileProperties]
        exact compileEntries_yields _ ih
      patterns := by
        rw [compilePatterns]
        exact compilePatternEntries_yields ih
      dependencies := fun _ hb => by
        rw [compileDependencies]
        exact compileDependencyEntries_yields ih hb
      items := fun _ => yields_throw _
      list := fun _ => yields_throw _ }

end

/-! ## Documents -/

/-- **However many references are followed, schemas are compiled into peopled ones.**

**Proof sketch.** Induction on how many references may still be followed. Following one compiles
what it leads to, with one less, and puts it into the pool. -/
theorem compileWithin_yields (e : Edition) (d : Directory) (n : Nat) (v : Json) :
    Yields (compileWithin e d n v) Constraint.Peopled := by
  induction n generalizing v with
  | zero =>
    rw [compileWithin]
    exact (readsPeopled (fun _ => yields_throw _) v).schema _
  | succ n ih =>
    rw [compileWithin]
    refine (readsPeopled (fun target => ?_) v).schema _
    split
    · exact yields_throw _
    · refine (yields_liftM_true _).bind fun part _ => (yields_liftM_true _).bind fun _ _ => ?_
      split
      · exact Yields.bind (P := fun _ => False) (yields_throw _) fun _ h => h.elim
      · refine (ih part).bind fun c hc => ?_
        intro pool hpool r hr
        cases hr
        exact ⟨trivial, List.forall_mem_cons.2 ⟨hc, hpool⟩⟩

/-- **In a compiled document every combination has alternatives**, also in all that its references
lead to. -/
theorem peopled_of_ofDocument {doc : Json} {c : Compiled} (h : Compiled.ofDocument doc = .ok c) :
    c.root.Peopled ∧ ∀ d ∈ c.definitions, d.2.Peopled := by
  unfold Compiled.ofDocument at h
  obtain ⟨e, -, h⟩ := bind_eq_ok_iff.1 h
  dsimp only at h
  obtain ⟨⟨root, pool⟩, hrun, h⟩ := bind_eq_ok_iff.1 h
  cases h
  exact compileWithin_yields _ _ _ _ ⟨[], []⟩ (by simp [Pool.Peopled]) _ hrun

end SchemaKit.Validation
