import SchemaKit.Proofs.Catalog.Overt
import SchemaKit.Proofs.Json.RoundTrip

/-!
# The order of registration

An entity is judged by what the catalog holds at that moment, which depends on the entities before
it. But what is asked for is a relation between two definitions that does not depend on their order:
under one name they have one text, and different names differ by more than case. So entities without
definitions of their own are registered in any order or in none, and the order shows at most in the
examples that are kept.

## Main definitions

* `SchemaKit.Catalog.Compatible` — two definitions that can stand in one catalog.
* `SchemaKit.Catalog.Fits` — a definition that is compatible with everything in a catalog.
* `SchemaKit.Catalog.Joins` — a catalog that differs from another one by a definition.
* `SchemaKit.Catalog.Registrable`, `SchemaKit.Catalog.Gathers` — when entities can be registered, and
  what is in the catalog then, both said without an order.

## Main results

* `SchemaKit.Catalog.add_cases` — adding a schema without definitions.
* `SchemaKit.Catalog.register_eq_ok_iff` — entities are registered iff they are compatible two by two
  and with the catalog.
* `SchemaKit.Catalog.Gathers.register` — what is in a catalog after a registration.
* `SchemaKit.Catalog.register_perm` — the order of registration does not matter.
-/

namespace SchemaKit.Catalog

/-! ## Two definitions -/

/-- Two definitions can stand in one catalog: names that are equal up to case are equal, and under one
name there is one schema, apart from examples. -/
def Compatible (d e : String × Schema) : Prop :=
  (d.1 = e.1 → isSame d.2 e.2 = true) ∧ (Text.equalFold d.1 e.1 = true → d.1 = e.1)

/-- Being compatible does not depend on the order. -/
lemma Compatible.symm {d e : String × Schema} (h : Compatible d e) : Compatible e d := by
  refine ⟨fun hname => isSame_comm.1 (h.1 hname.symm), fun hfold => ?_⟩
  rw [equalFold_comm] at hfold
  exact (h.2 hfold).symm

/-- A schema may be replaced by one that is the same. -/
lemma Compatible.congr {name : String} {s s' : Schema} {e : String × Schema}
    (hsame : isSame s s' = true) (h : Compatible (name, s) e) : Compatible (name, s') e :=
  ⟨fun hname => (isSame_congr hsame).1 (h.1 hname), h.2⟩

/-! ## A definition and a catalog -/

/-- A definition that has a name and is compatible with everything in a catalog. -/
def Fits (c : Catalog) (d : String × Schema) : Prop :=
  d.1 ≠ "" ∧ ∀ m t, c.get? m = some t → Compatible (m, t) d

/-- The second catalog differs from the first one at most by a definition. The schema under its name
is the same as the one that was given, and has examples if that has, or if there were some before. -/
structure Joins (c : Catalog) (d : String × Schema) (c' : Catalog) : Prop where
  /-- The invariant of catalogs holds. -/
  sound : c'.Sound
  /-- Other names keep their schemas. -/
  other : ∀ n, n ≠ d.1 → c'.get? n = c.get? n
  /-- What stands under the name. -/
  self : ∃ t, c'.get? d.1 = some t ∧ isSame t d.2 = true ∧
    (hasExamples t = true ↔
      hasExamples d.2 = true ∨ ∃ old, c.get? d.1 = some old ∧ hasExamples old = true)

variable {c c' : Catalog}

/-- A name under which a schema is found is registered. -/
lemma mem_names_of_get? {name : String} {s : Schema} (h : c.get? name = some s) : name ∈ c.names := by
  rw [mem_names_iff, h, Option.isSome_some]

/-- **A definition that is not refused fits.**

**Proof sketch.** Whether or not the schema was stored, the judgement says that its name is not
empty and that either the same schema stands under the name or the name is new, also up to case. In
the first case compatibility with the others is that of the schema in place, and in the second one
no name is equal up to case. -/
lemma Fits.of_judge (hc : c.Sound) {name : String} {s : Schema} {stored : Bool}
    (hjudge : c.judge name s = .ok stored) : Fits c (name, s) := by
  -- either there is the same schema under the name, or the name is new, also up to case
  have hcases : name ≠ "" ∧ ((∃ old, c.get? name = some old ∧ isSame old s = true) ∨
      c.get? name = none ∧ ∀ n ∈ c.names, Text.equalFold n name = false) := by
    cases stored with
    | false =>
      obtain ⟨hname, old, hold, hsame, -⟩ := judge_eq_false_iff.1 hjudge
      exact ⟨hname, .inl ⟨old, hold, hsame⟩⟩
    | true =>
      obtain ⟨hname, ⟨old, hold, hsame, -⟩ | hnew⟩ := judge_eq_true_iff.1 hjudge
      · exact ⟨hname, .inl ⟨old, hold, hsame⟩⟩
      · exact ⟨hname, .inr hnew⟩
  refine ⟨hcases.1, fun m t ht => ?_⟩
  have hm := mem_names_of_get? ht
  rcases hcases.2 with ⟨old, hold, hsame⟩ | ⟨hnone, hnew⟩
  · refine ⟨?_, fun hfold => hc.distinct m hm name (mem_names_of_get? hold) hfold⟩
    rintro rfl
    obtain rfl : t = old := Option.some.inj (ht.symm.trans hold)
    exact hsame
  · refine ⟨?_, fun hfold => ?_⟩
    · rintro rfl
      rw [ht] at hnone
      cases hnone
    · rw [hnew m hm] at hfold
      cases hfold

/-- **Adding a schema without definitions**: it is refused and nothing changes, or it fits and joins
the catalog.

**Proof sketch.** By cases on the judgement. A refusal contradicts that the definition fits: the two
ways of being refused are another schema under the name and a name that is equal up to case. A
definition that is not refused fits by `Fits.of_judge`, and it joins the catalog whether it is
stored or is there already. -/
lemma add_cases (hc : c.Sound) (name : String) {s : Schema} (hflat : s.part? .definitions = none) :
    (¬Fits c (name, s) ∧ ∃ r, add s name c = (c, .error r)) ∨
      Fits c (name, s) ∧ ∃ c', add s name c = (c', .ok ()) ∧ Joins c (name, s) c' := by
  cases hjudge : c.judge name s with
  | error r =>
    refine .inl ⟨fun hfits => ?_, r, by rw [add_eq, hjudge]⟩
    obtain ⟨hname, hcompatible⟩ := hfits
    rw [judge, if_neg hname] at hjudge
    cases hget : c.get? name with
    | some old =>
      have hsame := (hcompatible name old hget).1 rfl
      simp [hget, hsame] at hjudge
    | none =>
      have hfind : c.names.find? (Text.equalFold · name) = none := by
        rw [List.find?_eq_none]
        intro m hm hfold
        obtain ⟨t, ht⟩ := Option.isSome_iff_exists.1 (mem_names_iff.1 hm)
        obtain rfl : m = name := (hcompatible m t ht).2 hfold
        rw [hget] at ht
        cases ht
      simp [hget, hfind] at hjudge
  | ok stored =>
    have hfits := Fits.of_judge hc hjudge
    cases stored with
    | false =>
      obtain ⟨-, old, hold, hsame, hexamples, -⟩ := judge_eq_false_iff.1 hjudge
      refine .inr ⟨hfits, c, by rw [add_eq, hjudge], hc, fun _ _ => rfl, old, hold, hsame, ?_⟩
      exact ⟨fun _ => .inr ⟨old, hold, hexamples⟩, fun _ => hexamples⟩
    | true =>
      have hself : (c.store name s).get? name = some s := by
        rw [get?_store, if_pos rfl, Schema.drop_eq_self hflat]
      refine .inr ⟨hfits, c.store name s, add_eq_store hjudge hflat, hc.store hjudge,
        fun n hn => ?_, s, hself, isSame_iff.2 rfl, ⟨.inl, ?_⟩⟩
      · rw [get?_store, if_neg (Ne.symm hn)]
      · rintro (hexamples | ⟨old, hold, hexamples⟩)
        · exact hexamples
        · obtain ⟨-, ⟨old', hold', -, hkeeps⟩ | ⟨hnone, -⟩⟩ := judge_eq_true_iff.1 hjudge
          · obtain rfl : old = old' := Option.some.inj (hold.symm.trans hold')
            exact hkeeps hexamples
          · rw [hold] at hnone
            cases hnone

/-- **What fits after a definition has joined** is what fitted before and is compatible with it.

**Proof sketch.** Only the schema under the new name has changed, and it is the same as the one that
joined. So compatibility with it is compatibility with the definition, and for other names nothing
has changed. -/
lemma Joins.fits_iff {d e : String × Schema} (h : Joins c d c') (hd : Fits c d) :
    Fits c' e ↔ Fits c e ∧ Compatible d e := by
  obtain ⟨t, ht, hsame, -⟩ := h.self
  constructor
  · rintro ⟨hname, hcompatible⟩
    have hde : Compatible d e := (hcompatible d.1 t ht).congr hsame
    refine ⟨⟨hname, fun m u hu => ?_⟩, hde⟩
    by_cases hm : m = d.1
    · subst hm
      exact hde.congr (isSame_comm.1 ((hd.2 _ u hu).1 rfl))
    · exact hcompatible m u (by rw [h.other m hm, hu])
  · rintro ⟨⟨hname, hcompatible⟩, hde⟩
    refine ⟨hname, fun m u hu => ?_⟩
    by_cases hm : m = d.1
    · subst hm
      obtain rfl : t = u := Option.some.inj (ht.symm.trans hu)
      exact hde.congr (isSame_comm.1 hsame)
    · exact hcompatible m u (by rw [← h.other m hm, hu])

/-! ## Several entities -/

/-- **Registering an entity** whose schema has no definitions: it is refused and nothing changes, or
it has a schema that fits and joins the catalog.

**Proof sketch.** If the entity has no schema it is refused. Otherwise its schema is added, and
`add_cases` says what can happen. -/
lemma registerOne_cases (hc : c.Sound) {e : Entity}
    (hflat : ∀ s, schemaOf e = .ok s → s.part? .definitions = none) :
    ((∀ s, schemaOf e = .ok s → ¬Fits c (e.name, s)) ∧ ∃ r, c.registerOne e = (c, .error r)) ∨
      ∃ s, schemaOf e = .ok s ∧ Fits c (e.name, s) ∧
        ∃ c', c.registerOne e = (c', .ok ()) ∧ Joins c (e.name, s) c' := by
  rw [registerOne]
  cases hs : schemaOf e with
  | error r =>
    refine .inl ⟨?_, r, rfl⟩
    rintro s ⟨⟩
  | ok s =>
    rcases add_cases hc e.name (hflat s hs) with ⟨hfits, r, hadd⟩ | ⟨hfits, c', hadd, hjoins⟩
    · refine .inl ⟨?_, .entity e.name r, by simp only [hadd]⟩
      rintro t ⟨⟩
      exact hfits
    · exact .inr ⟨s, rfl, hfits, c', by simp only [hadd], hjoins⟩

/-- When entities can be registered: each has a schema that fits into the catalog, and they are
compatible two by two. -/
structure Registrable (c : Catalog) (es : List Entity) : Prop where
  /-- The schemas can be read and fit. -/
  fits : ∀ e ∈ es, ∃ s, schemaOf e = .ok s ∧ Fits c (e.name, s)
  /-- No two of them are in each other's way. -/
  compatible : es.Pairwise fun e f =>
    ∀ s t, schemaOf e = .ok s → schemaOf f = .ok t → Compatible (e.name, s) (f.name, t)

/-- Entities whose schemas have no definitions of their own. -/
def Flat (es : List Entity) : Prop :=
  ∀ e ∈ es, ∀ s, schemaOf e = .ok s → s.part? .definitions = none

/-- Whether entities can be registered does not depend on their order. -/
lemma Registrable.perm {es es' : List Entity} (h : es.Perm es') (hes : Registrable c es) :
    Registrable c es' where
  fits e he := hes.fits e (h.mem_iff.2 he)
  compatible := by
    refine (h.pairwise_iff fun {e f} hef s t hs ht => ?_).1 hes.compatible
    exact (hef t s ht hs).symm

/-- Entities can be registered one after the other: the first one has to fit, and the others into the
catalog that it has joined.

**Proof sketch.** By `Joins.fits_iff`, an entity fits the new catalog iff it fits the old one and is
compatible with the first entity. That is what the two conditions ask of the first entity together
with each of the others. -/
lemma Joins.registrable_iff {e : Entity} {rest : List Entity} {s : Schema}
    (hs : schemaOf e = .ok s) (hfits : Fits c (e.name, s)) (h : Joins c (e.name, s) c') :
    Registrable c (e :: rest) ↔ Registrable c' rest := by
  constructor
  · rintro ⟨hall, hpairwise⟩
    obtain ⟨hhead, htail⟩ := List.pairwise_cons.1 hpairwise
    refine ⟨fun f hf => ?_, htail⟩
    obtain ⟨t, ht, hft⟩ := hall f (List.mem_cons_of_mem e hf)
    exact ⟨t, ht, (h.fits_iff hfits).2 ⟨hft, hhead f hf s t hs ht⟩⟩
  · rintro ⟨hall, hpairwise⟩
    refine ⟨List.forall_mem_cons.2 ⟨⟨s, hs, hfits⟩, fun f hf => ?_⟩,
      List.pairwise_cons.2 ⟨fun f hf s' t hs' ht => ?_, hpairwise⟩⟩
    · obtain ⟨t, ht, hft⟩ := hall f hf
      exact ⟨t, ht, ((h.fits_iff hfits).1 hft).1⟩
    · obtain rfl : s = s' := Except.ok.inj (hs.symm.trans hs')
      obtain ⟨t', ht', hft⟩ := hall f hf
      obtain rfl : t = t' := Except.ok.inj (ht.symm.trans ht')
      exact ((h.fits_iff hfits).1 hft).2

/-- **Entities are registered iff they can be**, in whatever order they come.

**Proof sketch.** By induction on the entities: the first one has to fit into the catalog, and the
others into the catalog that it has joined. -/
lemma register_eq_ok_iff (hc : c.Sound) {es : List Entity} (hflat : Flat es) :
    (c.register es).2 = .ok () ↔ Registrable c es := by
  induction es generalizing c with
  | nil => exact ⟨fun _ => ⟨by simp, .nil⟩, fun _ => rfl⟩
  | cons e rest ih =>
    obtain ⟨hfirst, hrest⟩ := List.forall_mem_cons.1 hflat
    rw [register]
    rcases registerOne_cases hc hfirst with ⟨hunfit, r, hone⟩ | ⟨s, hs, hfits, c', hone, hjoins⟩
    · simp only [hone, reduceCtorEq, false_iff]
      intro hregistrable
      obtain ⟨s, hs, hfits⟩ := hregistrable.fits e List.mem_cons_self
      exact hunfit s hs hfits
    · simp only [hone]
      rw [ih hjoins.sound hrest, hjoins.registrable_iff hs hfits]

/-! ## What is in the catalog -/

/-- What is in a catalog when entities have been registered: the schemas under their names are the
same as theirs, and have examples if one of theirs has or if there were some before; all else is as
it was. -/
structure Gathers (c : Catalog) (es : List Entity) (c' : Catalog) : Prop where
  /-- Other names keep their schemas. -/
  other : ∀ n, (∀ e ∈ es, e.name ≠ n) → c'.get? n = c.get? n
  /-- Every entity has the same schema as the one under its name. -/
  same : ∀ e ∈ es, ∀ s, schemaOf e = .ok s → ∃ t, c'.get? e.name = some t ∧ isSame t s = true
  /-- Where there are examples. -/
  examples : ∀ n t, c'.get? n = some t → (hasExamples t = true ↔
    (∃ old, c.get? n = some old ∧ hasExamples old = true) ∨
      ∃ e ∈ es, e.name = n ∧ ∃ s, schemaOf e = .ok s ∧ hasExamples s = true)

/-- **What is in a catalog after a registration.**

**Proof sketch.** By induction on the entities. The first one joins the catalog, and the rest is
registered in what it has joined. Under its name there may be the schema of a later entity; then
this one has the same schema, because the entities are compatible. Examples are there if they were
before, or if one of the entities with the name has them. -/
lemma Gathers.register (hc : c.Sound) {es : List Entity} (hflat : Flat es)
    (hok : (c.register es).2 = .ok ()) : Gathers c es (c.register es).1 := by
  have hregistrable := (register_eq_ok_iff hc hflat).1 hok
  induction es generalizing c with
  | nil =>
    refine ⟨fun _ _ => rfl, by simp, fun n t ht => ?_⟩
    have ht : c.get? n = some t := ht
    simp [ht]
  | cons e rest ih =>
    obtain ⟨hfirst, hrest⟩ := List.forall_mem_cons.1 hflat
    rcases registerOne_cases hc hfirst with ⟨hunfit, -⟩ | ⟨s, hs, hfits, c', hone, hjoins⟩
    · obtain ⟨s, hs, hfits⟩ := hregistrable.fits e List.mem_cons_self
      exact absurd hfits (hunfit s hs)
    · have hcons : c.register (e :: rest) = c'.register rest := by
        rw [Catalog.register, hone]
      rw [hcons] at hok ⊢
      have hafter := ih hjoins.sound hrest hok ((hjoins.registrable_iff hs hfits).1 hregistrable)
      obtain ⟨t, ht, hsame, hexamples⟩ := hjoins.self
      refine ⟨fun n hn => ?_, ?_, ?_⟩
      · obtain ⟨hne, hn⟩ := List.forall_mem_cons.1 hn
        rw [hafter.other n hn, hjoins.other n (Ne.symm hne)]
      · rw [List.forall_mem_cons]
        refine ⟨?_, hafter.same⟩
        rintro s' hs'
        obtain rfl : s = s' := Except.ok.inj (hs.symm.trans hs')
        by_cases hlater : ∃ f ∈ rest, f.name = e.name
        · -- a later entity of the same name has the same schema
          obtain ⟨f, hf, hname⟩ := hlater
          obtain ⟨u, hu, -⟩ := hregistrable.fits f (List.mem_cons_of_mem e hf)
          obtain ⟨t', ht', hsame'⟩ := hafter.same f hf u hu
          have hcompatible := (List.pairwise_cons.1 hregistrable.compatible).1 f hf s u hs hu
          refine ⟨t', by rw [← hname, ht'], ?_⟩
          exact isSame_comm.2 ((isSame_congr (hcompatible.1 hname.symm)).2 (isSame_comm.1 hsame'))
        · refine ⟨t, ?_, hsame⟩
          rw [hafter.other e.name (by simpa using hlater), ht]
      · intro n u hu
        rw [hafter.examples n u hu, List.exists_mem_cons_iff, ← or_assoc]
        refine or_congr_left ?_
        by_cases hn : e.name = n
        · subst hn
          simp only [ht, Option.some.injEq, exists_eq_left', hexamples, hs, Except.ok.injEq, true_and]
          exact or_comm
        · rw [hjoins.other n (Ne.symm hn)]
          simp [hn]

/-- The names after a registration do not depend on the order. -/
lemma Gathers.mem_names_iff {es : List Entity} (h : Gathers c es c') (hregistrable : Registrable c es)
    (n : String) : n ∈ c'.names ↔ n ∈ c.names ∨ ∃ e ∈ es, e.name = n := by
  by_cases hn : ∃ e ∈ es, e.name = n
  · obtain ⟨e, he, rfl⟩ := hn
    obtain ⟨s, hs, -⟩ := hregistrable.fits e he
    obtain ⟨t, ht, -⟩ := h.same e he s hs
    exact iff_of_true (mem_names_of_get? ht) (.inr ⟨e, he, rfl⟩)
  · rw [Catalog.mem_names_iff, h.other n (by simpa using hn), ← Catalog.mem_names_iff]
    simp [hn]

/-- **The order of registration does not matter.** Let entities whose schemas have no definitions of
their own be registered in a catalog that was built by calls. If they come in another order, they are
all registered as well, or one of them is refused as well. If they are registered, the names are the
same ones, and under each name there are schemas that have one text apart from examples, and that
both have examples or both have none.

**Proof sketch.** Whether entities are registered depends on which they are and on each pair of
them, and not on their order. After a registration in either order, `Gathers.register` says what is
in the catalog in terms of the entities alone. The names ascend in both catalogs and have the same
members, so they are the same. The schemas under a name both have the text of an entity with the
name, or are both the old one. -/
theorem register_perm (calls : List Call) {es es' : List Entity} (hperm : es.Perm es')
    (hflat : Flat es) :
    (((empty.after calls).register es).2 = .ok () ↔ ((empty.after calls).register es').2 = .ok ()) ∧
      (((empty.after calls).register es).2 = .ok () →
        ((empty.after calls).register es).1.names = ((empty.after calls).register es').1.names ∧
          ∀ name s t, ((empty.after calls).register es).1.get? name = some s →
            ((empty.after calls).register es').1.get? name = some t →
            (essence s).compact = (essence t).compact ∧ hasExamples s = hasExamples t) := by
  have hsound : (empty.after calls).Sound := sound_empty.run (run_after empty calls)
  generalize empty.after calls = c at hsound ⊢
  have hflat' : Flat es' := fun e he => hflat e (hperm.mem_iff.2 he)
  have hiff : (c.register es).2 = .ok () ↔ (c.register es').2 = .ok () := by
    rw [register_eq_ok_iff hsound hflat, register_eq_ok_iff hsound hflat']
    exact ⟨Registrable.perm hperm, Registrable.perm hperm.symm⟩
  refine ⟨hiff, fun hok => ?_⟩
  have hregistrable := (register_eq_ok_iff hsound hflat).1 hok
  have hgathers := Gathers.register hsound hflat hok
  have hgathers' := Gathers.register hsound hflat' (hiff.1 hok)
  refine ⟨?_, fun name s t hs ht => ?_⟩
  · have hasc := (hsound.run (run_register c es)).ascending
    have hasc' := (hsound.run (run_register c es')).ascending
    have hmem : ∀ n, n ∈ (c.register es).1.names ↔ n ∈ (c.register es').1.names := by
      intro n
      rw [hgathers.mem_names_iff hregistrable, hgathers'.mem_names_iff (hregistrable.perm hperm)]
      simp only [hperm.mem_iff]
    exact ((List.perm_ext_iff_of_nodup hasc.nodup hasc'.nodup).2 hmem).eq_of_pairwise
      (fun _ _ _ _ hlt hgt => absurd hgt (lt_asymm hlt)) hasc hasc'
  · constructor
    · by_cases hn : ∃ e ∈ es, e.name = name
      · obtain ⟨e, he, rfl⟩ := hn
        obtain ⟨u, hu, -⟩ := hregistrable.fits e he
        obtain ⟨s', hs', hsame⟩ := hgathers.same e he u hu
        obtain ⟨t', ht', hsame'⟩ := hgathers'.same e (hperm.mem_iff.1 he) u hu
        obtain rfl : s = s' := Option.some.inj (hs.symm.trans hs')
        obtain rfl : t = t' := Option.some.inj (ht.symm.trans ht')
        -- the schema of the entity has a text, because it was read from one
        obtain ⟨text, htext⟩ := exists_essenceText?_of_schemaOf hu
        rw [compact_essence ((isSame_iff.1 hsame).trans htext),
          compact_essence ((isSame_iff.1 hsame').trans htext)]
      · have hsame : some s = some t := by
          rw [← hs, ← ht, hgathers.other name (by simpa using hn),
            hgathers'.other name (by simpa [hperm.mem_iff] using hn)]
        rw [Option.some.inj hsame]
    · rw [Bool.eq_iff_iff, hgathers.examples name s hs, hgathers'.examples name t ht]
      simp only [hperm.mem_iff]

/-- The document of the schema of texts. -/
def textSchema : Json := .obj [("type", .str "string")]

/-- An entity that is a text, with an example or without. -/
def textEntity (example_ : String) : Entity := ⟨"A", textSchema.compact, example_⟩

/-- The schema of the entity is read, with any example. -/
lemma readText?_textEntity (example_ : String) :
    Schema.readText? (textEntity example_).schema.toList =
      some (.mk [(.type, .data (.str "string"))] []) := by
  have hread : Json.readWhole textSchema.compact.toList = some textSchema :=
    Json.readWhole_compact ⟨trivial, trivial⟩ (by decide)
  rw [textEntity, Schema.readText?, hread]
  rfl

/-- The schema of the entity without an example. -/
lemma schemaOf_textEntity_empty :
    schemaOf (textEntity "") = .ok (.mk [(.type, .data (.str "string"))] []) := by
  rw [schemaOf, readText?_textEntity]
  rfl

/-- The schema of the entity with an example. -/
lemma schemaOf_textEntity_null :
    schemaOf (textEntity "null") =
      .ok (.mk [(.examples, .data (.arr [.null])), (.type, .data (.str "string"))] []) := by
  rw [schemaOf, readText?_textEntity]
  rfl

/-- An entity with an example and the same one without can be registered in either order.

**Proof sketch.** The schemas of both entities have no definitions, and registering them in the
first order succeeds. The rest is said by the general statement. -/
theorem register_perm_textEntity :
    [textEntity "null", textEntity ""].Perm [textEntity "", textEntity "null"] ∧
      Flat [textEntity "null", textEntity ""] ∧
      (empty.register [textEntity "null", textEntity ""]).2 = .ok () ∧
      (empty.register [textEntity "", textEntity "null"]).2 = .ok () ∧
      (empty.register [textEntity "null", textEntity ""]).1.names =
        (empty.register [textEntity "", textEntity "null"]).1.names := by
  have hperm : [textEntity "null", textEntity ""].Perm [textEntity "", textEntity "null"] :=
    .swap _ _ _
  have hflat : Flat [textEntity "null", textEntity ""] := by
    simp only [Flat, List.mem_cons, List.not_mem_nil, or_false, forall_eq_or_imp, forall_eq,
      schemaOf_textEntity_null, schemaOf_textEntity_empty, Except.ok.injEq, forall_eq']
    exact ⟨rfl, rfl⟩
  have hok : (empty.register [textEntity "null", textEntity ""]).2 = .ok () := by
    rw [register, registerOne, schemaOf_textEntity_null]
    simp only [register, registerOne, schemaOf_textEntity_empty]
    rfl
  obtain ⟨hiff, hsame⟩ := register_perm [] hperm hflat
  exact ⟨hperm, hflat, hok, hiff.1 hok, (hsame hok).1⟩

end SchemaKit.Catalog
