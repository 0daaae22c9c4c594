import SchemaKit.Proofs.Validation.Clean

/-!
# Faults in outcomes

A check fails if it has faults. It reports a fault if one of them is not the fault of a combined
schema. This module says how both pass through the ways in which outcomes are put together, where
they may differ: only for alternatives.

## Main definitions

* `SchemaKit.Validation.Tally.Fails` — an outcome with faults.
* `SchemaKit.Validation.Tally.Voices` — an outcome with a fault that is reported.
* `SchemaKit.Validation.Tally.Shows` — what passes from single outcomes to outcomes together.
* `SchemaKit.Validation.Tally.Frank` — an outcome that reports a fault if it fails.

## Main results

* `SchemaKit.Validation.Tally.voices_anyOf`, `SchemaKit.Validation.Tally.voices_oneOf` —
  alternatives report what the best one reports, and only if all of them fail.
-/

namespace SchemaKit.Validation

open Json

/-! ## Outcomes -/

namespace Tally

/-- An outcome with faults. -/
def Fails (t : Tally) : Prop := t.faults ≠ []

/-- An outcome with a fault that is reported, one that is not the fault of a combined schema. -/
def Voices (t : Tally) : Prop := ∃ f ∈ t.faults, f.cause.isCombined = false

/-- An outcome is valid iff it does not fail. -/
lemma isValid_eq_true_iff (t : Tally) : t.isValid = true ↔ ¬t.Fails := by
  simp [isValid, Fails]

/-- An outcome is not valid iff it fails. -/
lemma isValid_eq_false_iff (t : Tally) : t.isValid = false ↔ t.Fails := by
  simp [isValid, Fails]

/-- An outcome that reports a fault fails. -/
lemma Voices.fails {t : Tally} (h : t.Voices) : t.Fails := by
  obtain ⟨f, hf, -⟩ := h
  exact List.ne_nil_of_mem hf

/-- The empty outcome does not fail. -/
@[simp] lemma not_fails_zero : ¬zero.Fails := by simp [Fails, zero]

/-- Points alone do not fail. -/
@[simp] lemma not_fails_points (n : Int) : ¬(points n).Fails := by simp [Fails, points]

/-- A check that could not be carried out does not fail. -/
@[simp] lemma not_fails_lost : ¬lost.Fails := by simp [Fails, lost]

/-- A trace does not fail: it tells only whether a check could be carried out. -/
@[simp] lemma not_fails_trace (t : Tally) : ¬t.trace.Fails := by simp [Fails, trace]

/-- A fault fails. -/
@[simp] lemma fails_fault (path : List String) (cause : Cause) : (fault path cause).Fails := by
  simp [Fails, fault]

/-- The empty outcome reports nothing. -/
@[simp] lemma not_voices_zero : ¬zero.Voices := by simp [Voices, zero]

/-- Points alone report nothing. -/
@[simp] lemma not_voices_points (n : Int) : ¬(points n).Voices := by simp [Voices, points]

/-- A check that could not be carried out reports nothing. -/
@[simp] lemma not_voices_lost : ¬lost.Voices := by simp [Voices, lost]

/-- A trace reports nothing. -/
@[simp] lemma not_voices_trace (t : Tally) : ¬t.trace.Voices := by simp [Voices, trace]

/-- A fault is reported unless it is only about a combination of schemas. -/
@[simp] lemma voices_fault (path : List String) (cause : Cause) :
    (fault path cause).Voices ↔ cause.isCombined = false := by
  simp [Voices, fault]

/-- Two outcomes together fail iff one of them does. -/
@[simp] lemma fails_add (a b : Tally) : (a.add b).Fails ↔ a.Fails ∨ b.Fails := by
  simp only [Fails, add, ne_eq, List.append_eq_nil_iff]
  tauto

/-- Two outcomes together report a fault iff one of them does. -/
@[simp] lemma voices_add (a b : Tally) : (a.add b).Voices ↔ a.Voices ∨ b.Voices := by
  simp only [Voices, add, List.mem_append, or_and_right, exists_or]

/-- Something that shows in outcomes: in single faults that are reported, and in outcomes together
iff it shows in one of them. -/
structure Shows (P : Tally → Prop) : Prop where
  zero : ¬P zero
  points (n : Int) : ¬P (points n)
  lost : ¬P lost
  fault {path : List String} {cause : Cause} (h : cause.isCombined = false) : P (fault path cause)
  add (a b : Tally) : P (a.add b) ↔ P a ∨ P b

/-- What shows in outcomes together shows in one of them. -/
lemma Shows.sum {P : Tally → Prop} (hP : Shows P) (ts : List Tally) :
    P (sum ts) ↔ ∃ t ∈ ts, P t := by
  induction ts with
  | nil => simpa [Tally.sum] using hP.zero
  | cons t ts ih =>
    have hcons : Tally.sum (t :: ts) = t.add (Tally.sum ts) := rfl
    rw [hcons, hP.add, ih]
    simp

/-- Failing shows. -/
lemma shows_fails : Shows Fails where
  zero := not_fails_zero
  points := not_fails_points
  lost := not_fails_lost
  fault _ := fails_fault _ _
  add := fails_add

/-- Reporting a fault shows. -/
lemma shows_voices : Shows Voices where
  zero := not_voices_zero
  points := not_voices_points
  lost := not_voices_lost
  fault h := (voices_fault _ _).2 h
  add := voices_add

/-- Outcomes together fail iff one of them does. -/
@[simp] lemma fails_sum (ts : List Tally) : (sum ts).Fails ↔ ∃ t ∈ ts, t.Fails :=
  shows_fails.sum ts

/-- Outcomes together report a fault iff one of them does. -/
@[simp] lemma voices_sum (ts : List Tally) : (sum ts).Voices ↔ ∃ t ∈ ts, t.Voices :=
  shows_voices.sum ts

/-- A condition fails iff it does not hold. -/
@[simp] lemma fails_require (path : List String) (holds : Bool) (cause : Cause) :
    (require path holds cause).Fails ↔ holds = false := by
  cases holds <;> simp [require]

/-- A condition reports its cause. -/
@[simp] lemma voices_require (path : List String) (holds : Bool) (cause : Cause) :
    (require path holds cause).Voices ↔ holds = false ∧ cause.isCombined = false := by
  cases holds <;> simp [require]

/-- A guarded outcome fails iff the outcome does. -/
@[simp] lemma fails_guarded (path : List String) (cause : Cause) (t : Tally) :
    (guarded path cause t).Fails ↔ t.Fails := by
  unfold guarded
  split
  · next h => simpa using (isValid_eq_true_iff t).1 h
  · next h => simpa using (isValid_eq_false_iff t).1 (by simpa using h)

/-- A guarded outcome that fails reports the fault in front. -/
lemma voices_guarded {path : List String} {cause : Cause} (hcause : cause.isCombined = false)
    (t : Tally) : (guarded path cause t).Voices ↔ t.Fails := by
  unfold guarded
  split
  · next h => simpa using (isValid_eq_true_iff t).1 h
  · next h => simpa [hcause] using (isValid_eq_false_iff t).1 (by simpa using h)

/-! ## Alternatives -/

/-- The best of several outcomes is one of them.

**Proof sketch.** Induction on the outcomes. -/
lemma mem_of_best {ts : List Tally} {b : Tally} (h : best ts = some b) : b ∈ ts := by
  induction ts generalizing b with
  | nil => cases h
  | cons t rest ih =>
    rw [best] at h
    split at h
    · obtain rfl := Option.some.inj h
      exact List.mem_cons_self
    · next b' hb' =>
      split at h
      · obtain rfl := Option.some.inj h
        exact List.mem_cons_of_mem _ (ih hb')
      · obtain rfl := Option.some.inj h
        exact List.mem_cons_self

/-- Where there are outcomes, one of them is the best. -/
lemma exists_best {ts : List Tally} (h : ts ≠ []) : ∃ b, best ts = some b := by
  cases ts with
  | nil => exact absurd rfl h
  | cons t rest =>
    rw [best]
    split
    · exact ⟨t, rfl⟩
    · split <;> exact ⟨_, rfl⟩

/-- If no outcome is valid, all of them are tried. -/
lemma untilValid_eq_self {ts : List Tally} (h : ∀ t ∈ ts, t.Fails) : untilValid ts = ts := by
  induction ts with
  | nil => rfl
  | cons t rest ih =>
    rw [List.forall_mem_cons] at h
    rw [untilValid, (isValid_eq_false_iff t).2 h.1, ih h.2]
    rfl

/-- One of the outcomes that are tried is valid iff one of all outcomes is. -/
lemma any_untilValid (ts : List Tally) : (untilValid ts).any isValid = ts.any isValid := by
  induction ts with
  | nil => rfl
  | cons t rest ih =>
    rw [untilValid]
    split
    · next h => simp [h]
    · simp [ih]

/-- No outcome is valid iff all of them fail. -/
lemma any_isValid_eq_false_iff (ts : List Tally) :
    ts.any isValid = false ↔ ∀ t ∈ ts, t.Fails := by
  simp only [List.any_eq_false, Bool.not_eq_true, isValid_eq_false_iff]

/-- Seeing whether outcomes could be obtained at all finds no faults. -/
lemma not_fails_traces (ts : List Tally) : ¬(sum (ts.map trace)).Fails := by
  simp

/-- What alternatives amount to: nothing if one of them holds, otherwise a fault and the best one.

**Proof sketch.** By whether one of the alternatives holds. If none does, all of them are looked at. -/
lemma anyOf_eq (path : List String) (cause : Cause) (ts : List Tally) :
    (anyOf path cause ts).faults =
      if ts.any isValid then [] else (fault path cause).faults ++ ((best ts).getD zero).faults := by
  unfold anyOf
  simp only [any_untilValid]
  have hseen : ∀ us : List Tally, (sum (us.map trace)).faults = [] := fun us =>
    not_not.1 (not_fails_traces us)
  split
  · exact hseen _
  · next h =>
    rw [untilValid_eq_self ((any_isValid_eq_false_iff ts).1 (by simpa using h))]
    simp [add, hseen]

/-- Alternatives fail iff all of them do. -/
lemma fails_anyOf (path : List String) (cause : Cause) (ts : List Tally) :
    (anyOf path cause ts).Fails ↔ ∀ t ∈ ts, t.Fails := by
  rw [Fails, anyOf_eq, ← any_isValid_eq_false_iff]
  cases ts.any isValid <;> simp [fault]

/-- Alternatives report the best one if all of them fail. -/
lemma voices_anyOf (path : List String) (ts : List Tally) :
    (anyOf path .noneOf ts).Voices ↔
      (∀ t ∈ ts, t.Fails) ∧ ∃ b, best ts = some b ∧ b.Voices := by
  rw [Voices, anyOf_eq, ← any_isValid_eq_false_iff]
  cases ts.any isValid with
  | true => simp
  | false => cases best ts <;> simp [fault, Cause.isCombined, zero, Voices]

/-- No outcome is valid iff all of them fail. -/
lemma countP_isValid_eq_zero_iff (ts : List Tally) :
    ts.countP isValid = 0 ↔ ∀ t ∈ ts, t.Fails := by
  simp only [List.countP_eq_zero, Bool.not_eq_true, isValid_eq_false_iff]

/-- What alternatives of which one is asked for amount to.

**Proof sketch.** By how many of the alternatives hold. What is seen of them on the way reports no
faults. -/
lemma oneOf_eq (path : List String) (ts : List Tally) :
    (oneOf path ts).faults =
      if ts.countP isValid = 1 then []
      else if ts.countP isValid = 0 then
        (fault path .notOneOf).faults ++ ((best ts).getD zero).faults
      else (fault path .notOneOf).faults := by
  have hseen : (sum (ts.map trace)).faults = [] := not_not.1 (not_fails_traces ts)
  unfold oneOf
  simp only
  split
  · exact hseen
  · split <;> simp [add, hseen]

/-- Alternatives of which one is asked for fail iff it is not exactly one that holds. -/
lemma fails_oneOf (path : List String) (ts : List Tally) :
    (oneOf path ts).Fails ↔ ts.countP isValid ≠ 1 := by
  rw [Fails, oneOf_eq]
  split
  · next h => simp [h]
  · next h => split <;> simp [fault, h]

/-- Alternatives of which one is asked for report the best one if all of them fail. -/
lemma voices_oneOf (path : List String) (ts : List Tally) :
    (oneOf path ts).Voices ↔ (∀ t ∈ ts, t.Fails) ∧ ∃ b, best ts = some b ∧ b.Voices := by
  rw [Voices, oneOf_eq, ← countP_isValid_eq_zero_iff]
  split
  · next h => simp [h]
  · split
    · next h => cases best ts <;> simp [fault, Cause.isCombined, zero, Voices, h]
    · next h => simp [fault, Cause.isCombined, h]

/-- Outcomes that all have to be valid fail iff one of them does. -/
lemma fails_allOf (path : List String) (ts : List Tally) :
    (allOf path ts).Fails ↔ ∃ t ∈ ts, t.Fails := by
  simp only [allOf, fails_add, fails_sum, fails_require, List.all_eq_false, Bool.not_eq_true,
    isValid_eq_false_iff, or_self]

/-- Outcomes that all have to be valid report what each of them reports. -/
lemma voices_allOf (path : List String) (ts : List Tally) :
    (allOf path ts).Voices ↔ ∃ t ∈ ts, t.Voices := by
  simp [allOf, Cause.isCombined]

/-! ## Frank outcomes -/

/-- An outcome that reports a fault if it fails. -/
def Frank (t : Tally) : Prop := t.Fails → t.Voices

/-- An outcome without faults is frank. -/
lemma frank_of_not_fails {t : Tally} (h : ¬t.Fails) : t.Frank := fun h' => absurd h' h

/-- A fault that is not the fault of a combined schema is reported. -/
lemma frank_fault {path : List String} {cause : Cause} (hcause : cause.isCombined = false) :
    (fault path cause).Frank := fun _ => (voices_fault path cause).2 hcause

/-- Frank outcomes together are frank. -/
lemma Frank.add {a b : Tally} (ha : a.Frank) (hb : b.Frank) : (a.add b).Frank := by
  intro h
  rw [fails_add] at h
  rw [voices_add]
  exact h.imp ha hb

/-- Frank outcomes together are frank. -/
lemma frank_sum {ts : List Tally} (h : ∀ t ∈ ts, t.Frank) : (sum ts).Frank := by
  intro hfails
  rw [fails_sum] at hfails
  obtain ⟨t, ht, hfails⟩ := hfails
  rw [voices_sum]
  exact ⟨t, ht, h t ht hfails⟩

/-- A condition is frank if its cause is. -/
lemma frank_require {path : List String} {holds : Bool} {cause : Cause}
    (hcause : cause.isCombined = false) : (require path holds cause).Frank := by
  intro h
  rw [fails_require] at h
  exact (voices_require path holds cause).2 ⟨h, hcause⟩

/-- A guarded outcome is frank if the cause in front is. -/
lemma frank_guarded {path : List String} {cause : Cause} (hcause : cause.isCombined = false)
    (t : Tally) : (guarded path cause t).Frank := by
  intro h
  rw [fails_guarded] at h
  exact (voices_guarded hcause t).2 h

/-- Alternatives are frank if their own cause is. -/
lemma frank_anyOf {path : List String} {cause : Cause} (hcause : cause.isCombined = false)
    (ts : List Tally) : (anyOf path cause ts).Frank := by
  intro h
  rw [Fails, anyOf_eq] at h
  rw [Voices, anyOf_eq]
  cases hany : ts.any isValid with
  | true => simp [hany] at h
  | false => exact ⟨⟨path, cause⟩, by simp [fault], hcause⟩

end Tally

/-! ## The parts of a check -/

section

variable (follow : Follow)

/-- The outcomes of rules, rule by rule. -/
lemma checkRules_eq_map (rules : List Rule) (doc : Json) (path : List String) :
    checkRules follow rules doc path = rules.map (checkRule follow · doc path) := by
  induction rules with
  | nil => rfl
  | cons r rest ih => rw [checkRules, ih, List.map_cons]

/-- The outcomes under several schemas, schema by schema. -/
lemma checkAll_eq_map (schemas : List Constraint) (doc : Json) (path : List String) :
    checkAll follow schemas doc path = schemas.map (check follow · doc path) := by
  induction schemas with
  | nil => rfl
  | cons s rest ih => rw [checkAll, ih, List.map_cons]

/-- The outcomes of declared properties are those of the ones that are present.

**Proof sketch.** Induction on the properties, by whether the member is present. -/
lemma mem_checkProperties {properties : List (String × Constraint)}
    {members : List (String × Json)} {path : List String} {t : Tally} :
    t ∈ checkProperties follow properties members path ↔
      ∃ p ∈ properties, ∃ v, lookup? members p.1 = some v ∧
        t = check follow p.2 v (p.1 :: path) := by
  induction properties with
  | nil => simp [checkProperties]
  | cons p properties ih =>
    obtain ⟨name, s⟩ := p
    rw [checkProperties]
    cases h : lookup? members name with
    | none => simp [h, ih]
    | some v => simp [h, ih]

/-- The outcomes of patterns are those of the ones that match the name. -/
lemma mem_checkPatterns {patterns : List (Pattern × Constraint)} {name : String} {v : Json}
    {path : List String} {t : Tally} :
    t ∈ checkPatterns follow patterns name v path ↔
      ∃ q ∈ patterns, q.1.occursIn name.toList = true ∧ t = check follow q.2 v path := by
  induction patterns with
  | nil => simp [checkPatterns]
  | cons q patterns ih =>
    obtain ⟨p, s⟩ := q
    rw [checkPatterns]
    by_cases h : p.occursIn name.toList = true <;> simp [h, ih]

/-- No pattern has an outcome iff none matches the name.

**Proof sketch.** By `mem_checkPatterns` a pattern has an outcome iff it matches the name. -/
lemma checkPatterns_eq_nil_iff (patterns : List (Pattern × Constraint)) (name : String) (v : Json)
    (path : List String) :
    checkPatterns follow patterns name v path = [] ↔
      ∀ q ∈ patterns, q.1.occursIn name.toList = false := by
  rw [List.eq_nil_iff_forall_not_mem]
  simp only [mem_checkPatterns, not_exists, not_and]
  constructor
  · intro h q hq
    by_contra hoccurs
    exact h _ q hq (by simpa using hoccurs) rfl
  · intro h t q hq hoccurs
    rw [h q hq] at hoccurs
    cases hoccurs

/-- The outcomes of items, by position.

**Proof sketch.** Induction on the items, with the position of the first one going along. -/
lemma mem_overItems {f : Json → List String → Tally} {path : List String} {i : Nat}
    {items : List Json} {t : Tally} :
    t ∈ overItems f path i items ↔
      ∃ j v, items[j]? = some v ∧ t = f v (Decimal.text (i + j) :: path) := by
  induction items generalizing i with
  | nil => simp [overItems]
  | cons v rest ih =>
    rw [overItems, List.mem_cons, ih]
    constructor
    · rintro (rfl | ⟨j, w, hw, rfl⟩)
      · exact ⟨0, v, rfl, rfl⟩
      · exact ⟨j + 1, w, hw, by rw [Nat.add_assoc, Nat.add_comm 1 j]⟩
    · rintro ⟨_ | j, w, hw, rfl⟩
      · obtain rfl := Option.some.inj hw
        exact .inl rfl
      · exact .inr ⟨j, w, hw, by rw [Nat.add_assoc, Nat.add_comm 1 j]⟩

/-- The outcomes of items that have a schema by position.

**Proof sketch.** Induction on the schemas, with the items and the position going along. -/
lemma mem_checkPositions {schemas : List Constraint} {path : List String} {i : Nat}
    {items : List Json} {t : Tally} :
    t ∈ checkPositions follow schemas i items path ↔
      ∃ j s v, schemas[j]? = some s ∧ items[j]? = some v ∧
        t = check follow s v (Decimal.text (i + j) :: path) := by
  induction schemas generalizing i items with
  | nil => simp [checkPositions]
  | cons s rest ih =>
    cases items with
    | nil => simp [checkPositions]
    | cons v items =>
      rw [checkPositions, List.mem_cons, ih]
      constructor
      · rintro (rfl | ⟨j, s', w, hs', hw, rfl⟩)
        · exact ⟨0, s, v, rfl, rfl, rfl⟩
        · exact ⟨j + 1, s', w, hs', hw, by rw [Nat.add_assoc, Nat.add_comm 1 j]⟩
      · rintro ⟨_ | j, s', w, hs', hw, rfl⟩
        · obtain rfl := Option.some.inj hs'
          obtain rfl := Option.some.inj hw
          exact .inl rfl
        · exact .inr ⟨j, s', w, hs', hw, by rw [Nat.add_assoc, Nat.add_comm 1 j]⟩

end

end SchemaKit.Validation
