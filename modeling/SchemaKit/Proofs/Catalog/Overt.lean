import SchemaKit.Proofs.Catalog.Hoisting
import SchemaKit.Proofs.Catalog.Stability
import SchemaKit.Proofs.Schema.Derived
import SchemaKit.Proofs.Schema.Proper

/-!
# Catalogs of overt schemas

What can go wrong with registered schemas goes wrong because schemas are compared by their texts: there
may be no text, or a further member may look like definitions in it. A schema is overt if neither is the
case. Whatever is read from a text is overt at every depth, and so is what is derived from a shape, unless
its tags name numbers that cannot be written. While only such schemas are added, no text ever changes,
and definitions always become entries of their own.

## Main definitions

* `SchemaKit.Catalog.Overt` — a schema whose text shows what it is.
* `SchemaKit.Catalog.Call.sources` — the schemas that a call sets out to add.
* `SchemaKit.Catalog.Call.IsOvert` — calls that add overt schemas.

## Main results

* `SchemaKit.Catalog.Call.isOvert_register` — entities are overt, whatever their texts are.
* `SchemaKit.Catalog.Call.isOvert_registerShape_iff` — shapes are overt if their schemas can be written.
* `SchemaKit.Catalog.essenceText?_after_of_isOvert` — over overt calls, a registered text never changes.
* `SchemaKit.Catalog.placeable_of_isOvert` — after overt calls, an overt family that was added could be
  placed, so that it becomes entries of their own.
-/

namespace SchemaKit.Catalog

open Schema (Key Sub family familyOfEntries)

/-! ## Overt schemas -/

/-- A schema whose text shows what it is: it can be written, and no further member has the name of
definitions. -/
structure Overt (s : Schema) : Prop where
  /-- It can be written. -/
  writable : essenceText? s ≠ none
  /-- No further member passes for definitions. -/
  extra : ∀ m ∈ s.extra, m.1 ≠ Key.definitions.name

section

variable {s t : Schema} {name : String} {room : Nat}

/-- No other key has the name of definitions. -/
lemma eq_definitions_of_name_eq {k : Key} (h : k.name = Key.definitions.name) : k = .definitions := by
  revert h
  cases k <;> decide

/-- Without definitions a schema stays overt. -/
lemma Overt.drop_definitions (h : Overt s) : Overt (s.drop .definitions) := by
  obtain ⟨text, htext⟩ := Option.ne_none_iff_exists'.1 h.writable
  exact ⟨by rw [essenceText?_drop_definitions htext]; exact Option.some_ne_none _, h.extra⟩

/-- **What has the text of an overt schema without definitions has no definitions.**

**Proof sketch.** The two have one document. Definitions would be a member of it with that name. But in
the document of the overt schema this can be neither the member of a key nor a further one. -/
lemma Overt.part?_definitions_eq_none (h : Overt s) (hflat : s.part? .definitions = none)
    (htext : essenceText? t = essenceText? s) : t.part? .definitions = none := by
  obtain ⟨text, hs⟩ := Option.ne_none_iff_exists'.1 h.writable
  have hdoc : essence t = essence s := essence_eq_of_essenceText?_eq (htext.trans hs) hs
  have hflat' : (s.drop .examples).part? .definitions = none := by
    rwa [Schema.part?_drop_of_ne (by decide)]
  by_contra hpart
  obtain ⟨p, hp⟩ := Option.ne_none_iff_exists'.1 hpart
  rw [← Schema.part?_drop_of_ne (j := .examples) (by decide)] at hp
  obtain ⟨e, hfind, rfl⟩ := Option.map_eq_some_iff.1 hp
  have hkey : e.1 = .definitions := by simpa using List.find?_some hfind
  simp only [essence, Schema.drop, Schema.json, Schema.partMembers_eq_map, Json.obj.injEq] at hdoc
  have hmem : (e.1.name, e.2.json) ∈
      (s.parts.filter (·.1 ≠ .examples)).map (fun e => (e.1.name, e.2.json)) ++ s.extra := by
    rw [← hdoc]
    exact List.mem_append_left _ (List.mem_map_of_mem (List.mem_of_find?_eq_some hfind))
  rw [hkey] at hmem
  rcases List.mem_append.1 hmem with hmem | hmem
  · obtain ⟨e', he', heq⟩ := List.mem_map.1 hmem
    have hkey' := eq_definitions_of_name_eq (congrArg Prod.fst heq)
    have hnone := Option.map_eq_none_iff.1 hflat'
    exact absurd hkey' (by simpa using List.find?_eq_none.1 hnone e' he')
  · exact h.extra _ hmem rfl

/-! ## Where schemas come from -/

/-- A schema that is proper apart from examples is overt.

**Proof sketch.** A proper schema can be encoded within its room, and so it has a text. All its
further members are named differently from the known keys, and the key of definitions is one of
those. -/
lemma overt_of_proper (h : (s.drop .examples).Proper room) (hroom : room ≤ Json.maxDepth + 1) :
    Overt s where
  writable := by
    rw [essenceText?_eq_some_iff.2 ⟨h.isEncodable hroom, rfl⟩]
    exact Option.some_ne_none _
  extra m hm hname := by
    cases h with
    | mk _ hextra =>
      have hkey := (hextra m hm).1
      rw [hname] at hkey
      exact absurd hkey (by decide)

/-- The members of the family of a proper schema are proper.

**Proof sketch.** By induction over the definitions inside the schema, each of which needs no more room
than the schema. -/
lemma proper_of_mem_family (h : (s.drop .examples).Proper room) :
    ∀ e ∈ family s name, ∃ r ≤ room, (e.2.drop .examples).Proper r := by
  induction s using Schema.definition_induction generalizing name room with
  | step s ih =>
    rw [Schema.family_eq, List.forall_mem_cons]
    refine ⟨⟨room, le_rfl, h⟩, fun e he => ?_⟩
    obtain ⟨n, t, ht, he⟩ := Schema.mem_familyOfEntries_iff.1 he
    have ht' : (n, Sub.schema t) ∈ (s.drop .examples).entries .definitions := by
      rwa [Schema.entries, Schema.part?_drop_of_ne (by decide)]
    obtain ⟨r, hr, hproper⟩ := h.of_mem_entries ht'
    obtain ⟨r', hr', hproper'⟩ := ih n t ht hproper.drop e he
    exact ⟨r', hr'.trans hr, hproper'⟩

/-- **The schema of an entity is proper apart from examples**, because it was read from a text.

**Proof sketch.** The schema of an entity is read from a text, and what is read is proper.
References are redirected after that, which leaves a schema proper, and an example is put where none
counts. -/
lemma proper_of_schemaOf {e : Entity} (h : schemaOf e = .ok s) :
    (s.drop .examples).Proper (Json.maxDepth + 1) := by
  unfold schemaOf at h
  split at h
  · cases h
  · next t ht =>
    have hproper := Schema.proper_of_readText? ht
    split at h
    · cases h
      exact (hproper.mapRefs Schema.componentRef true).drop
    · split at h
      · cases h
      · cases h
        rw [Schema.localized_drop, Schema.drop_put_self]
        exact hproper.drop.mapRefs Schema.componentRef true

/-- The schema of an entity has a text that is compared. -/
lemma exists_essenceText?_of_schemaOf {e : Entity} (h : schemaOf e = .ok s) :
    ∃ text, essenceText? s = some text :=
  Option.ne_none_iff_exists'.1 (overt_of_proper (proper_of_schemaOf h) le_rfl).writable

end

/-! ## Calls -/

namespace Call

/-- The schemas that a call sets out to add, under their names. -/
def sources : Call → List (String × Schema)
  | .register entities => entities.filterMap fun e => (schemaOf e).toOption.map (e.name, ·)
  | .registerShape name shape => (shape.schema?.map (name, ·)).toList
  | .add name s => [(name, s)]

/-- A call that adds overt schemas, with overt definitions inside them. -/
def IsOvert (call : Call) : Prop := ∀ d ∈ call.sources, ∀ e ∈ family d.2 d.1, Overt e.2

/-- **Registering entities is overt**, whatever the entities are.

**Proof sketch.** The schema of an entity is proper by `proper_of_schemaOf`, and so is every schema
of its family. -/
theorem isOvert_register (entities : List Entity) : (register entities).IsOvert := by
  intro d hd e he
  obtain ⟨entity, -, hentity⟩ := List.mem_filterMap.1 hd
  obtain ⟨s, hs, rfl⟩ := Option.map_eq_some_iff.1 hentity
  have hok : schemaOf entity = .ok s := by
    cases h : schemaOf entity with
    | error r => simp [h, Except.toOption] at hs
    | ok t => simpa [h, Except.toOption] using hs
  obtain ⟨r, hr, hproper⟩ := proper_of_mem_family (proper_of_schemaOf hok) e he
  exact overt_of_proper hproper hr

/-- **Registering a shape is overt iff its schema can be written**, if it has one.

**Proof sketch.** The derived schema stands alone, so its family is the schema itself, and it has no
further members. -/
theorem isOvert_registerShape_iff (name : String) (shape : Shape) :
    (registerShape name shape).IsOvert ↔ ∀ s, shape.schema? = some s → essenceText? s ≠ none := by
  cases hs : shape.schema? with
  | none => simp [IsOvert, sources, hs]
  | some s =>
    obtain ⟨hflat, hextra⟩ := Shape.standsAlone_of_schema? hs
    have hfamily : family s name = [(name, s)] := by
      rw [Schema.family_eq, entries_eq_nil hflat, familyOfEntries]
    simp only [IsOvert, sources, hs, Option.map_some, Option.toList_some, List.forall_mem_singleton,
      hfamily, Option.some.injEq, forall_eq']
    exact ⟨Overt.writable, fun h => ⟨h, by simp [hextra]⟩⟩

/-- What a call stores belongs to the families of the schemas that it sets out to add.

**Proof sketch.** By cases on the call. What is stored for a schema belongs to its family; for
entities this is used for each of them, by induction on the list. -/
lemma exists_source_of_mem_log {c : Catalog} {call : Call} {e : String × Schema}
    (h : e ∈ call.log c) : ∃ d ∈ call.sources, e ∈ family d.2 d.1 := by
  cases call with
  | register entities =>
    rw [Call.log] at h
    induction entities generalizing c with
    | nil => cases h
    | cons entity rest ih =>
      rw [registered, List.mem_append] at h
      rw [sources, List.filterMap_cons]
      rcases h with h | h
      · rw [registeredOne] at h
        split at h
        · cases h
        · next s hs =>
          simp only [hs, Except.toOption, Option.map_some, List.exists_mem_cons_iff]
          exact .inl ((added_sublist_family s entity.name c).subset h)
      · split at h
        · obtain ⟨d, hd, hmem⟩ := ih h
          refine ⟨d, ?_, hmem⟩
          split
          · exact hd
          · exact List.mem_cons_of_mem _ hd
        · cases h
  | registerShape name shape =>
    rw [Call.log] at h
    split at h
    · cases h
    · next s hs =>
      exact ⟨(name, s), by simp [sources, hs], (added_sublist_family s name c).subset h⟩
  | add name s =>
    exact ⟨(name, s), List.mem_singleton_self _, (added_sublist_family s name c).subset h⟩

end Call

/-- What overt calls store is overt.

**Proof sketch.** Induction on the calls: what a call stores comes from one of its sources, by
`exists_source_of_mem_log`. -/
lemma overt_of_mem_logAfter {c : Catalog} {calls : List Call} (h : ∀ call ∈ calls, call.IsOvert) :
    ∀ e ∈ c.logAfter calls, Overt e.2 := by
  induction calls generalizing c with
  | nil => exact nofun
  | cons call rest ih =>
    rw [List.forall_mem_cons] at h
    rw [logAfter, List.forall_mem_append]
    refine ⟨fun e he => ?_, ih h.2⟩
    obtain ⟨d, hd, hmem⟩ := Call.exists_source_of_mem_log he
    exact h.1 d hd e hmem

/-! ## Catalogs of overt schemas -/

/-- A catalog in which all schemas are overt and none has definitions. -/
def HoldsOvert (c : Catalog) : Prop :=
  ∀ name s, c.get? name = some s → Overt s ∧ s.part? .definitions = none

section

variable {c c' : Catalog} {name : String} {s : Schema} {log : List (String × Schema)}

/-- An overt schema may be stored. -/
lemma HoldsOvert.store (h : HoldsOvert c) (hs : Overt s) : HoldsOvert (c.store name s) := by
  intro other t ht
  rw [get?_store] at ht
  split at ht
  · cases ht
    exact ⟨hs.drop_definitions, Schema.part?_drop_self s _⟩
  · exact h other t ht

/-- A run along an overt log leads to a catalog of overt schemas. -/
lemma HoldsOvert.run (h : HoldsOvert c) (hrun : Run c log c') (hlog : ∀ e ∈ log, Overt e.2) :
    HoldsOvert c' := by
  induction hrun with
  | nil => exact h
  | cons _ _ ih =>
    rw [List.forall_mem_cons] at hlog
    exact ih (h.store hlog.1) hlog.2

/-- What is not refused under a name that is taken has no definitions.

**Proof sketch.** What is not refused under a name that is taken has the text of the schema under
the name. That one is overt and has no definitions, so neither has the other one. -/
lemma HoldsOvert.part?_definitions_eq_none (h : HoldsOvert c) (hname : name ∈ c.names) {stored : Bool}
    (hjudge : c.judge name s = .ok stored) : s.part? .definitions = none := by
  have hsame : ∃ old, c.get? name = some old ∧ isSame old s = true := by
    cases stored with
    | false =>
      obtain ⟨-, old, hold, hsame, -⟩ := judge_eq_false_iff.1 hjudge
      exact ⟨old, hold, hsame⟩
    | true =>
      obtain ⟨-, ⟨old, hold, hsame, -⟩ | ⟨hnone, -⟩⟩ := judge_eq_true_iff.1 hjudge
      · exact ⟨old, hold, hsame⟩
      · rw [mem_names_iff, hnone] at hname
        cases hname
  obtain ⟨old, hold, hsame⟩ := hsame
  obtain ⟨hovert, hflat⟩ := h name old hold
  exact hovert.part?_definitions_eq_none hflat (isSame_iff.1 hsame).symm

/-- Along an overt run, only schemas without definitions are stored over others.

**Proof sketch.** Induction on the run. What is stored keeps the catalog overt, and a schema that is
stored over another one has no definitions by `part?_definitions_eq_none`. -/
lemma HoldsOvert.part?_of_mem_log (h : HoldsOvert c) (hrun : Run c log c')
    (hlog : ∀ e ∈ log, Overt e.2) (hname : name ∈ c.names) :
    ∀ e ∈ log, e.1 = name → e.2.part? .definitions = none := by
  induction hrun with
  | nil => exact nofun
  | cons hjudge _ ih =>
    rw [List.forall_mem_cons] at hlog ⊢
    refine ⟨?_, ih (h.store hlog.1) hlog.2 (mem_names_store.2 (.inr hname))⟩
    rintro rfl
    exact h.part?_definitions_eq_none hname hjudge

/-- The catalog after overt calls has overt schemas. -/
lemma holdsOvert_after {calls : List Call} (h : ∀ call ∈ calls, call.IsOvert) :
    HoldsOvert (empty.after calls) :=
  HoldsOvert.run (c := empty) nofun (run_after empty calls) (overt_of_mem_logAfter h)

/-- **Over overt calls a registered text never changes**, whether or not calls are refused.

**Proof sketch.** What is stored under a name that is taken has no definitions, because nothing that has
the text of an overt schema without definitions has any. So the text stays by `stable_after_iff`. -/
theorem essenceText?_after_of_isOvert {calls more : List Call}
    (hcalls : ∀ call ∈ calls, call.IsOvert) (hmore : ∀ call ∈ more, call.IsOvert)
    (hs : (empty.after calls).get? name = some s) :
    ∃ t, (empty.after (calls ++ more)).get? name = some t ∧ essenceText? t = essenceText? s ∧
      (hasExamples s = true → hasExamples t = true) := by
  have hrun := run_after (empty.after calls) more
  have hovert := holdsOvert_after hcalls
  have hlog := overt_of_mem_logAfter (c := empty.after calls) hmore
  have hname : name ∈ (empty.after calls).names := by rw [mem_names_iff, hs, Option.isSome_some]
  rw [after_append]
  obtain ⟨t, ht, -, hiff⟩ := hrun.essenceText?_eq_iff hs
  obtain ⟨u, hu, hexamples⟩ : ∃ u, ((empty.after calls).after more).get? name = some u ∧
      (hasExamples s = true → hasExamples u = true) := by
    refine ⟨t, ht, fun hexamples => ?_⟩
    obtain ⟨u, hu, hexamples'⟩ := hrun.hasExamples hs hexamples
    obtain rfl : t = u := Option.some.inj (ht.symm.trans hu)
    exact hexamples'
  obtain rfl : t = u := Option.some.inj (ht.symm.trans hu)
  refine ⟨t, ht, hiff.2 fun e he heq => ?_, hexamples⟩
  rw [Schema.drop_eq_self (hovert.part?_of_mem_log hrun hlog hname e he heq)]

end

/-! ## Families of overt schemas -/

section

variable {c c' : Catalog} {name : String} {s : Schema}

/-- Definitions that were added could be placed, if each of them could be.

**Proof sketch.** By induction on the entries. What was stored for the first entry is overt again,
so that the rest can be placed in the catalog after it, and the two parts are put together by
`placeable_append_iff`. -/
lemma placeable_addEntries {entries : List (String × Sub)}
    (h : ∀ n t, (n, Sub.schema t) ∈ entries → ∀ c c' : Catalog, HoldsOvert c →
      add t n c = (c', .ok ()) → Placeable c (family t n))
    (hovert : ∀ e ∈ familyOfEntries entries, Overt e.2) (hc : HoldsOvert c)
    (hok : addEntries entries c = (c', .ok ())) : Placeable c (familyOfEntries entries) := by
  induction entries generalizing c with
  | nil => exact ⟨nofun, nofun, .nil⟩
  | cons entry rest ih =>
    obtain ⟨n, sub⟩ := entry
    rw [addEntries] at hok
    rw [familyOfEntries, List.forall_mem_append] at hovert
    rw [familyOfEntries]
    split at hok
    · next c₁ hsub =>
      have hrest := fun hc₁ => ih (fun n t ht => h n t (List.mem_cons_of_mem _ ht)) hovert.2 hc₁ hok
      cases sub with
      | schema t =>
        have hplaceable := h n t List.mem_cons_self c c₁ hc hsub
        have hrun := run_add t n c
        rw [show add t n c = (c₁, .ok ()) from hsub] at hrun
        have hlog : ∀ e ∈ added t n c, Overt e.2 := fun e he =>
          hovert.1 e ((added_sublist_family t n c).subset he)
        have hnames := (settles_add t n c c₁ hsub).mem_names_iff hplaceable
        exact (placeable_append_iff hnames).2 ⟨hplaceable, hrest (hc.run hrun hlog)⟩
      | truth _ | nothing | names _ =>
        obtain rfl : c = c₁ := congrArg Prod.fst hsub
        exact hrest hc
    · next hrefused => exact absurd hok (hrefused c')

/-- An overt family that was added to a catalog of overt schemas could be placed there.

**Proof sketch.** By induction over the definitions inside the schema. Under a name that is taken it
has none, and so it is its whole family. Under a new name it is stored, and its definitions are placed
one by one after it. -/
lemma placeable_add (s : Schema) :
    ∀ (name : String) (c c' : Catalog), (∀ e ∈ family s name, Overt e.2) → HoldsOvert c →
      add s name c = (c', .ok ()) → Placeable c (family s name) := by
  induction s using Schema.definition_induction with
  | step s ih =>
    intro name c c' hovert hc hok
    rw [Schema.family_eq, List.forall_mem_cons] at hovert
    have hself : essenceText? (s.drop .definitions) ≠ none := hovert.1.drop_definitions.writable
    rw [add_eq] at hok
    cases hjudge : c.judge name s with
    | error r => simp [hjudge] at hok
    | ok stored =>
      have hsingle : Placeable c [(name, s)] :=
        ⟨by simpa using hself,
          by simpa using fun hname => hc.part?_definitions_eq_none hname hjudge,
          List.pairwise_singleton _ _⟩
      rw [Schema.family_eq]
      by_cases hflat : s.part? .definitions = none
      · rwa [entries_eq_nil hflat, familyOfEntries]
      · have hstored : stored = true := by
          cases stored with
          | true => rfl
          | false =>
            obtain ⟨-, old, hold, -⟩ := judge_eq_false_iff.1 hjudge
            have hname : name ∈ c.names := by rw [mem_names_iff, hold, Option.isSome_some]
            exact absurd (hc.part?_definitions_eq_none hname hjudge) hflat
        subst hstored
        have hnames : ∀ n, n ∈ (c.store name s).names ↔ n ∈ c.names ∨ n ∈ [(name, s)].map (·.1) := by
          intro n
          rw [mem_names_store, or_comm]
          simp
        rw [hjudge] at hok
        rw [← List.singleton_append, placeable_append_iff hnames]
        refine ⟨hsingle, ?_⟩
        refine placeable_addEntries (fun n t ht c c' hc hok => ?_) hovert.2 (hc.store hovert.1) hok
        refine ih n t ht n c c' (fun e he => hovert.2 e ?_) hc hok
        exact Schema.mem_familyOfEntries_iff.2 ⟨n, t, ht, he⟩

/-- **After overt calls an overt family that was added could be placed.** So it is held, as
`hoisted_after_add_iff` says: each member has an entry with its text, and no text has changed. -/
theorem placeable_of_isOvert {calls : List Call} (hcalls : ∀ call ∈ calls, call.IsOvert)
    (hs : (Call.add name s).IsOvert) (hok : (add s name (empty.after calls)).2 = .ok ()) :
    Placeable (empty.after calls) (family s name) :=
  placeable_add s name _ _ (hs (name, s) (List.mem_singleton_self _)) (holdsOvert_after hcalls)
    (Prod.ext rfl hok)

end

end SchemaKit.Catalog
