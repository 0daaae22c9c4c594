import Mathlib.Data.List.Sort
import SchemaKit.Merge
import SchemaKit.Proofs.Json.Sorted

/-!
# The union of fragments

Fragments are joined property by property: what a strategy makes of several declarations of one
property does not depend on the other properties. So a law about lists of properties follows from
the law about the declarations of one property. The law needed here is that a group of fragments can
be joined first: joining its union has the same outcome as joining its fragments one by one.

## Main definitions

* `SchemaKit.Merge.Strategy.declareAll?` — what becomes of a property that is declared several times.
* `SchemaKit.Merge.Fragment.join?` — one fragment joined to another one.

## Main results

* `SchemaKit.Merge.addProperties_eq_some_iff` — adding properties is deciding about each of them.
* `SchemaKit.Merge.foldlM_join?_eq_bind` — a group of fragments can be joined first.
-/

namespace SchemaKit.Merge

open Json (lookup? insertSorted)

/-! ## One property -/

/-- What a declaration makes of a property that may have a value already; none if it is refused. -/
def Strategy.declare? (s : Strategy) : Option Json → Json → Option Json
  | none, v => some v
  | some old, v =>
    match s with
    | .overwrite => some v
    | .refuse => none
    | .keep => some old

/-- What becomes of a property that is declared several times. -/
def Strategy.declareAll? (s : Strategy) : Option Json → List Json → Option (Option Json)
  | old, [] => some old
  | old, v :: vs => (s.declare? old v).bind fun w => s.declareAll? (some w) vs

/-- Every further declaration is passed over. -/
lemma declareAll?_keep (w : Json) (vs : List Json) :
    Strategy.keep.declareAll? (some w) vs = some (some w) := by
  induction vs with
  | nil => rfl
  | cons v vs ih => exact ih

/-- Declarations that overwrite leave the last value. -/
lemma declareAll?_overwrite (old : Option Json) (vs : List Json) :
    Strategy.overwrite.declareAll? old vs = some (vs.getLast?.or old) := by
  induction vs generalizing old with
  | nil => rfl
  | cons v vs ih =>
    have hfirst : Strategy.overwrite.declare? old v = some v := by cases old <;> rfl
    rw [Strategy.declareAll?, hfirst, Option.bind_some, ih, List.getLast?_cons]
    cases vs.getLast? <;> rfl

/-- **Declarations of one property can be gathered first.**

**Proof sketch.** By the strategy. Overwriting leaves the last of the values, keeping the first of
all, and refusing allows one in all. -/
lemma declareAll?_eq_bind (s : Strategy) (old : Option Json) (vs : List Json) :
    s.declareAll? old vs = (s.declareAll? none vs).bind fun new => s.declareAll? old new.toList := by
  cases vs with
  | nil => rfl
  | cons v vs =>
    cases s with
    | overwrite =>
      simp only [declareAll?_overwrite, Option.bind_some]
      cases (v :: vs).getLast? <;> rfl
    | refuse =>
      -- a second declaration is refused, wherever the first one came from
      cases vs <;> cases old <;> rfl
    | keep =>
      have hnone : Strategy.keep.declareAll? none (v :: vs) = some (some v) := declareAll?_keep v vs
      rw [hnone]
      cases old with
      | none => exact hnone
      | some w => exact declareAll?_keep w (v :: vs)

/-! ## Properties in ascending order -/

/-- Entries in strictly ascending order of their names. -/
def Ascending (es : Entries) : Prop := (es.map (·.1)).Pairwise (· < ·)

/-- No entries are in order. -/
lemma ascending_nil : Ascending [] := .nil

/-- The values that entries give to a name, in their order. -/
def valuesOf (k : String) (es : List (String × Json)) : List Json :=
  es.filterMap fun e => if e.1 = k then some e.2 else none

/-- The values behind an entry for the name. -/
lemma valuesOf_cons_self (e : String × Json) (es : List (String × Json)) :
    valuesOf e.1 (e :: es) = e.2 :: valuesOf e.1 es := by
  simp [valuesOf]

/-- The values behind an entry for another name. -/
lemma valuesOf_cons_ne {k : String} {e : String × Json} (h : e.1 ≠ k) (es : List (String × Json)) :
    valuesOf k (e :: es) = valuesOf k es := by
  simp [valuesOf, h]

/-- Entries that name each property once give at most one value to a name.

**Proof sketch.** Induction on the entries: behind the entry with the name there is no other one. -/
lemma valuesOf_eq_toList {es : List (String × Json)} (h : (es.map (·.1)).Nodup) (k : String) :
    valuesOf k es = (lookup? es k).toList := by
  induction es with
  | nil => rfl
  | cons e rest ih =>
    obtain ⟨hfirst, hrest⟩ := List.nodup_cons.1 h
    rw [Json.lookup?_cons]
    by_cases hk : e.1 = k
    · subst hk
      have hnone : lookup? rest e.1 = none := by
        rwa [← Option.not_isSome_iff_eq_none, Json.isSome_lookup?_iff]
      rw [valuesOf_cons_self, if_pos rfl, ih hrest, hnone]
      rfl
    · rw [valuesOf_cons_ne hk, if_neg hk, ih hrest]

/-- The last one of the values that a name is given.

**Proof sketch.** Induction on the members from the end. -/
lemma getLast?_valuesOf {members : List (String × Json)} {name : String} :
    (valuesOf name members).getLast? = Json.last? members name := by
  induction members using List.reverseRecOn with
  | nil => rfl
  | append_singleton ms m ih =>
    have hsplit : valuesOf name (ms ++ [m]) = valuesOf name ms ++ valuesOf name [m] :=
      List.filterMap_append
    rw [hsplit, Json.last?_concat]
    by_cases hm : m.1 = name
    · subst hm
      rw [valuesOf_cons_self, if_pos rfl]
      exact List.getLast?_concat
    · rw [valuesOf_cons_ne hm, if_neg hm, ← ih]
      exact congrArg List.getLast? (List.append_nil _)

/-- The values of a field, if nothing but its name itself is taken for the name.

**Proof sketch.** Induction on the members. -/
lemma fieldsNamed_eq_valuesOf {members : List (String × Json)} {name : String}
    (h : ∀ m ∈ members, Text.equalFold m.1 name = (m.1 == name)) :
    Json.fieldsNamed members name = valuesOf name members := by
  induction members with
  | nil => rfl
  | cons m rest ih =>
    rw [List.forall_mem_cons] at h
    have hrest := ih h.2
    rw [Json.fieldsNamed] at hrest ⊢
    by_cases hm : m.1 = name
    · subst hm
      rw [List.filter_cons_of_pos (by simp), List.map_cons, hrest, valuesOf_cons_self]
    · rw [List.filter_cons_of_neg (by simp [h.1, hm]), hrest, valuesOf_cons_ne hm]

/-- Entries in order give at most one value to a name. -/
lemma Ascending.valuesOf {es : Entries} (h : Ascending es) (k : String) :
    Merge.valuesOf k es = (lookup? es k).toList :=
  valuesOf_eq_toList h.nodup k

section

variable {s : Strategy} {acc r : Entries}

/-- A property that is added gets what its declaration makes of it, and the others keep what they
have.

**Proof sketch.** By whether the property is there already and, if so, by the strategy. -/
lemma addProperty_eq_ok {e : String × Json} (h : addProperty s acc e = .ok r) :
    (Ascending acc → Ascending r) ∧
      (∃ w, s.declare? (lookup? acc e.1) e.2 = some w ∧ lookup? r e.1 = some w) ∧
      ∀ k, e.1 ≠ k → lookup? r k = lookup? acc k := by
  have hinsert : (Ascending acc → Ascending (insertSorted e.1 e.2 acc)) ∧
      lookup? (insertSorted e.1 e.2 acc) e.1 = some e.2 ∧
      ∀ k, e.1 ≠ k → lookup? (insertSorted e.1 e.2 acc) k = lookup? acc k := by
    refine ⟨Json.pairwise_keys_insertSorted, by rw [Json.lookup?_insertSorted, if_pos rfl], ?_⟩
    intro k hk
    rw [Json.lookup?_insertSorted, if_neg hk]
  obtain ⟨hasc, hself, hother⟩ := hinsert
  unfold addProperty at h
  split at h
  · next hsome =>
    obtain ⟨old, hold⟩ := Option.isSome_iff_exists.1 hsome
    rw [hold]
    cases s with
    | overwrite =>
      cases h
      exact ⟨hasc, ⟨e.2, rfl, hself⟩, hother⟩
    | refuse => cases h
    | keep =>
      cases h
      exact ⟨id, ⟨old, rfl, hold⟩, fun _ _ => rfl⟩
  · next hnone =>
    rw [Option.not_isSome_iff_eq_none.1 hnone]
    cases h
    exact ⟨hasc, ⟨e.2, rfl, hself⟩, hother⟩

/-- A property that is not added is refused by its declaration.

**Proof sketch.** Only a property that is there already is refused, and only under the strategy that
refuses. -/
lemma addProperty_eq_error {e : String × Json} {f : Fault} (h : addProperty s acc e = .error f) :
    s.declare? (lookup? acc e.1) e.2 = none := by
  unfold addProperty at h
  split at h
  · next hsome =>
    obtain ⟨old, hold⟩ := Option.isSome_iff_exists.1 hsome
    rw [hold]
    cases s with
    | overwrite => cases h
    | refuse => rfl
    | keep => cases h
  · cases h

/-- Properties that are added get what their declarations make of them.

**Proof sketch.** Induction on the properties. The first one decides about its own name only, so for
every other name the declarations are those of the rest. -/
lemma addProperties_eq_ok {es : List (String × Json)} (h : addProperties s acc es = .ok r) :
    (Ascending acc → Ascending r) ∧
      ∀ k, s.declareAll? (lookup? acc k) (valuesOf k es) = some (lookup? r k) := by
  induction es generalizing acc with
  | nil =>
    cases h
    exact ⟨id, fun _ => rfl⟩
  | cons e es ih =>
    unfold addProperties at h
    split at h
    · next acc' hadd =>
      obtain ⟨hasc, ⟨w, hw, hself⟩, hother⟩ := addProperty_eq_ok hadd
      obtain ⟨hasc', hall⟩ := ih h
      refine ⟨fun hacc => hasc' (hasc hacc), fun k => ?_⟩
      by_cases hk : e.1 = k
      · subst hk
        rw [valuesOf_cons_self, Strategy.declareAll?, hw, Option.bind_some, ← hself, hall]
      · rw [valuesOf_cons_ne hk, ← hother k hk, hall]
    · cases h

/-- If properties are not added, then the declarations of one of them are refused.

**Proof sketch.** Induction on the entries: the first one that is refused gives the name, and those
before it did not touch the name or were gathered under it. -/
lemma addProperties_eq_error {es : List (String × Json)} {f : Fault}
    (h : addProperties s acc es = .error f) :
    ∃ k, s.declareAll? (lookup? acc k) (valuesOf k es) = none := by
  induction es generalizing acc with
  | nil => cases h
  | cons e es ih =>
    unfold addProperties at h
    split at h
    · next acc' hadd =>
      obtain ⟨-, ⟨w, hw, hself⟩, hother⟩ := addProperty_eq_ok hadd
      obtain ⟨k, hk⟩ := ih h
      refine ⟨k, ?_⟩
      by_cases hek : e.1 = k
      · subst hek
        rw [valuesOf_cons_self, Strategy.declareAll?, hw, Option.bind_some, ← hself, hk]
      · rw [valuesOf_cons_ne hek, ← hother k hek, hk]
    · next hadd =>
      refine ⟨e.1, ?_⟩
      rw [valuesOf_cons_self, Strategy.declareAll?, addProperty_eq_error hadd, Option.bind_none]

/-- Adding properties brings in no others.

**Proof sketch.** Induction on the entries: a property is replaced by the entry or kept. -/
lemma mem_of_mem_addProperties {es : List (String × Json)} (h : addProperties s acc es = .ok r)
    {e : String × Json} (he : e ∈ r) : e ∈ acc ∨ e ∈ es := by
  induction es generalizing acc with
  | nil =>
    cases h
    exact .inl he
  | cons e' es ih =>
    unfold addProperties at h
    split at h
    · next acc' hadd =>
      rcases ih h with hmem | hmem
      · unfold addProperty at hadd
        split at hadd
        · cases s with
          | overwrite =>
            cases hadd
            rcases Json.mem_of_mem_insertSorted hmem with rfl | hmem
            · exact .inr List.mem_cons_self
            · exact .inl hmem
          | refuse => cases hadd
          | keep =>
            cases hadd
            exact .inl hmem
        · cases hadd
          rcases Json.mem_of_mem_insertSorted hmem with rfl | hmem
          · exact .inr List.mem_cons_self
          · exact .inl hmem
      · exact .inr (List.mem_cons_of_mem _ hmem)
    · cases h

/-- **Adding properties is deciding about each of them.**

**Proof sketch.** From left to right this is `addProperties_eq_ok`. For the converse, the result has
the same value under every name, and both lists are in order, so they are equal. -/
theorem addProperties_eq_some_iff {es : List (String × Json)} (hacc : Ascending acc) :
    (addProperties s acc es).toOption = some r ↔
      Ascending r ∧ ∀ k, s.declareAll? (lookup? acc k) (valuesOf k es) = some (lookup? r k) := by
  cases h : addProperties s acc es with
  | error f =>
    obtain ⟨k, hk⟩ := addProperties_eq_error h
    refine ⟨nofun, fun ⟨_, hall⟩ => ?_⟩
    rw [hall k] at hk
    cases hk
  | ok r' =>
    obtain ⟨hasc, hall⟩ := addProperties_eq_ok h
    constructor
    · rintro ⟨⟩
      exact ⟨hasc hacc, hall⟩
    · rintro ⟨hr, hall'⟩
      refine congrArg some (Json.eq_of_lookup?_eq (hasc hacc) hr fun k => ?_)
      exact Option.some.inj ((hall k).symm.trans (hall' k))

/-- **A group of properties can be gathered first.**

**Proof sketch.** By `addProperties_eq_some_iff` both sides are decided name by name, and there it
is `declareAll?_eq_bind`. -/
lemma addProperties_eq_bind (es : List (String × Json)) (hacc : Ascending acc) :
    (addProperties s acc es).toOption =
      (addProperties s [] es).toOption.bind fun es' => (addProperties s acc es').toOption := by
  ext r
  rw [addProperties_eq_some_iff hacc, Option.bind_eq_some_iff]
  constructor
  · rintro ⟨hr, hall⟩
    cases h : addProperties s [] es with
    | error f =>
      obtain ⟨k, hk⟩ := addProperties_eq_error h
      have hnone : s.declareAll? none (valuesOf k es) = none := hk
      have hsome := hall k
      rw [declareAll?_eq_bind, hnone, Option.bind_none] at hsome
      cases hsome
    | ok es' =>
      obtain ⟨hasc, hgroup⟩ := addProperties_eq_ok h
      refine ⟨es', rfl, (addProperties_eq_some_iff hacc).2 ⟨hr, fun k => ?_⟩⟩
      have hk : s.declareAll? none (valuesOf k es) = some (lookup? es' k) := hgroup k
      rw [(hasc ascending_nil).valuesOf, ← hall k, declareAll?_eq_bind _ _ (valuesOf k es), hk,
        Option.bind_some]
  · rintro ⟨es', hes', hadd⟩
    obtain ⟨hasc, hgroup⟩ := (addProperties_eq_some_iff ascending_nil).1 hes'
    obtain ⟨hr, hall⟩ := (addProperties_eq_some_iff hacc).1 hadd
    refine ⟨hr, fun k => ?_⟩
    have hk : s.declareAll? none (valuesOf k es) = some (lookup? es' k) := hgroup k
    rw [declareAll?_eq_bind, hk, Option.bind_some, ← hasc.valuesOf, hall]

end

/-! ## Required names -/

/-- All these names put into an ascending list. -/
def insertNames (acc ns : List String) : List String := ns.foldl (fun acc n => insertName n acc) acc

/-- Putting in a name adds that name. -/
lemma mem_insertName {x n : String} {ns : List String} : x ∈ insertName n ns ↔ x = n ∨ x ∈ ns := by
  induction ns with
  | nil => simp [insertName]
  | cons m rest ih =>
    unfold insertName
    split_ifs with hlt heq
    · exact List.mem_cons
    · subst heq
      simp
    · rw [List.mem_cons, ih, List.mem_cons]
      exact or_left_comm

/-- Putting in a name keeps the list in order.

**Proof sketch.** Induction on the list. -/
lemma pairwise_insertName {n : String} {ns : List String} (h : ns.Pairwise (· < ·)) :
    (insertName n ns).Pairwise (· < ·) := by
  induction ns with
  | nil => exact List.pairwise_singleton _ _
  | cons m rest ih =>
    obtain ⟨hfirst, hrest⟩ := List.pairwise_cons.1 h
    unfold insertName
    split_ifs with hlt heq
    · refine List.pairwise_cons.2 ⟨fun x hx => ?_, h⟩
      rcases List.mem_cons.1 hx with rfl | hx
      · exact hlt
      · exact hlt.trans (hfirst x hx)
    · exact h
    · refine List.pairwise_cons.2 ⟨fun x hx => ?_, ih hrest⟩
      rcases mem_insertName.1 hx with rfl | hx
      · exact lt_of_le_of_ne (not_lt.1 hlt) (Ne.symm heq)
      · exact hfirst x hx

/-- Putting in names adds these names. -/
lemma mem_insertNames {x : String} {acc ns : List String} :
    x ∈ insertNames acc ns ↔ x ∈ acc ∨ x ∈ ns := by
  induction ns generalizing acc with
  | nil => simp [insertNames]
  | cons n ns ih =>
    have hstep : insertNames acc (n :: ns) = insertNames (insertName n acc) ns := rfl
    rw [hstep, ih, mem_insertName, List.mem_cons, or_assoc, or_left_comm]

/-- Putting in names keeps the list in order. -/
lemma pairwise_insertNames {acc ns : List String} (h : acc.Pairwise (· < ·)) :
    (insertNames acc ns).Pairwise (· < ·) := by
  induction ns generalizing acc with
  | nil => exact h
  | cons n ns ih => exact ih (pairwise_insertName h)

/-- Ascending lists with the same members are equal. -/
lemma eq_of_pairwise_of_mem_iff {xs ys : List String} (hx : xs.Pairwise (· < ·))
    (hy : ys.Pairwise (· < ·)) (h : ∀ n, n ∈ xs ↔ n ∈ ys) : xs = ys :=
  List.Perm.eq_of_pairwise (fun _ _ _ _ hab hba => absurd hab hba.not_gt) hx hy
    ((List.perm_ext_iff_of_nodup hx.nodup hy.nodup).2 h)

/-- **A group of names can be gathered first.** -/
lemma insertNames_insertNames {acc ns : List String} (h : acc.Pairwise (· < ·)) :
    insertNames acc (insertNames [] ns) = insertNames acc ns := by
  refine eq_of_pairwise_of_mem_iff (pairwise_insertNames h) (pairwise_insertNames h) fun x => ?_
  simp only [mem_insertNames, List.not_mem_nil, false_or]

/-! ## Fragments -/

namespace Fragment

/-- The fragment that says nothing. -/
def blank : Fragment := ⟨[], []⟩

/-- A fragment joined to what was gathered before, if no property is refused. -/
def join? (s : Strategy) (acc f : Fragment) : Option Fragment :=
  (addProperties s acc.properties f.properties).toOption.map
    (⟨·, insertNames acc.required f.required⟩)

/-- Properties by ascending names, and required names in ascending order. -/
structure InOrder (f : Fragment) : Prop where
  properties : Ascending f.properties
  required : f.required.Pairwise (· < ·)

/-- The fragment that says nothing is in order. -/
lemma inOrder_blank : blank.InOrder := ⟨ascending_nil, .nil⟩

/-- What is joined to something in order is in order. -/
lemma InOrder.join? {s : Strategy} {acc f g : Fragment} (h : acc.InOrder)
    (hjoin : acc.join? s f = some g) : g.InOrder := by
  obtain ⟨ps, hps, rfl⟩ := Option.map_eq_some_iff.1 hjoin
  exact ⟨((addProperties_eq_some_iff h.properties).1 hps).1, pairwise_insertNames h.required⟩

end Fragment

/-- Adding properties in two steps. -/
lemma addProperties_append (s : Strategy) (acc : Entries) (es es' : List (String × Json)) :
    (addProperties s acc (es ++ es')).toOption =
      (addProperties s acc es).toOption.bind fun r => (addProperties s r es').toOption := by
  induction es generalizing acc with
  | nil => rfl
  | cons e es ih =>
    rw [List.cons_append, addProperties, addProperties]
    split
    · exact ih _
    · rfl

/-- Fragments joined one by one are their properties and names joined at once.

**Proof sketch.** Induction on the fragments: properties and names are added group by group or all
at once. -/
lemma foldlM_join?_eq_map (s : Strategy) (acc : Fragment) (fs : List Fragment) :
    fs.foldlM (Fragment.join? s) acc =
      (addProperties s acc.properties (fs.flatMap (·.properties))).toOption.map
        (⟨·, insertNames acc.required (fs.flatMap (·.required))⟩) := by
  induction fs generalizing acc with
  | nil => rfl
  | cons f fs ih =>
    rw [List.foldlM_cons, List.flatMap_cons, List.flatMap_cons, addProperties_append,
      Option.map_bind, Fragment.join?, Option.bind_eq_bind, Option.bind_map]
    congr 1
    funext ps
    have hnames : insertNames acc.required (f.required ++ fs.flatMap (·.required)) =
        insertNames (insertNames acc.required f.required) (fs.flatMap (·.required)) :=
      List.foldl_append
    rw [Function.comp_apply, Function.comp_apply, ih, hnames]

/-- **A group of fragments can be joined first.**

**Proof sketch.** Joined one by one, the fragments are their properties and names joined at once, by
`foldlM_join?_eq_map`. A group of properties can be gathered first by `addProperties_eq_bind`, and
so can a group of names. -/
theorem foldlM_join?_eq_bind (s : Strategy) {acc : Fragment} (hacc : acc.InOrder)
    (fs : List Fragment) :
    fs.foldlM (Fragment.join? s) acc =
      (fs.foldlM (Fragment.join? s) .blank).bind (acc.join? s) := by
  rw [foldlM_join?_eq_map, foldlM_join?_eq_map, Option.bind_map,
    addProperties_eq_bind _ hacc.properties, Option.map_bind]
  congr 1
  funext ps
  rw [Function.comp_apply, Function.comp_apply, Fragment.join?, Fragment.blank,
    insertNames_insertNames hacc.required]

end SchemaKit.Merge
