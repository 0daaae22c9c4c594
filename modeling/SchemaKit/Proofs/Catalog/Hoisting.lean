import SchemaKit.Proofs.Catalog.Atomicity
import SchemaKit.Proofs.Catalog.Invariant

/-!
# Definitions become entries of their own

When a schema is added, everything in its family should get an entry: the schema itself, the
definitions inside it, those inside them, and so on. Each of them is stored without its own definitions,
and what is stored should stay while the rest of the family is added.

This is so for a schema under a new name. Under a name that is taken the schema is compared with what is
there, and what is there has no definitions. If the schema has some, it is refused, unless the schema
that is there has a text as if it had definitions, or has no text at all. Then it may be passed over
together with its definitions, or stored with another text than before.

## Main definitions

* `SchemaKit.Catalog.Holds` — a catalog holds a definition, apart from examples.
* `SchemaKit.Catalog.Keeps` — a catalog keeps the texts of another one.
* `SchemaKit.Catalog.Placeable` — definitions that can be written, and of which those under taken names
  have no definitions inside them.
* `SchemaKit.Catalog.Settles` — what it takes to add definitions to a catalog in order.

## Main results

* `SchemaKit.Schema.family_eq` — a family is a schema and the families of its definitions.
* `SchemaKit.Schema.definition_induction` — induction over the definitions inside a schema.
* `SchemaKit.Catalog.settles_add` — a schema that was added is settled with its family.
* `SchemaKit.Catalog.hoisted_after_add_iff` — what adding a schema makes of a catalog.
* `SchemaKit.Catalog.definition_lost` — a definition that does not become an entry.
-/

namespace SchemaKit

open Schema (Key Part Sub family familyOfParts familyOfPart familyOfEntries familyOfSub)

/-! ## Definitions inside a schema -/

namespace Schema

/-- The family of the parts of a schema is that of its definitions.

**Proof sketch.** By induction on the parts. The first part under the key of definitions is the one
that is looked up, and parts under other keys add nothing. -/
lemma familyOfParts_eq (s : Schema) :
    familyOfParts s.parts = familyOfEntries (s.entries .definitions) := by
  obtain ⟨parts, extra⟩ := s
  induction parts with
  | nil => rfl
  | cons e rest ih =>
    obtain ⟨k, p⟩ := e
    simp only [Schema.parts] at ih ⊢
    rw [familyOfParts]
    by_cases hk : k = .definitions
    · cases p <;>
        simp [hk, familyOfPart, Schema.entries, Schema.part?, Schema.parts, familyOfEntries]
    · rw [if_neg hk, ih]
      simp [hk, Schema.entries, Schema.part?, Schema.parts]

/-- The family of definitions is made of the families of the schemas among them.

**Proof sketch.** Induction on the entries, by what stands under the first name. -/
lemma mem_familyOfEntries_iff {es : List (String × Sub)} {e : String × Schema} :
    e ∈ familyOfEntries es ↔ ∃ n t, (n, Sub.schema t) ∈ es ∧ e ∈ family t n := by
  induction es with
  | nil => simp [familyOfEntries]
  | cons entry rest ih =>
    obtain ⟨n, sub⟩ := entry
    rw [familyOfEntries, List.mem_append, ih]
    cases sub with
    | schema t => simp [familyOfSub, or_and_right, exists_or, and_assoc]
    | truth _ | nothing | names _ => simp [familyOfSub]

/-- **A family is a schema and the families of its definitions**, one after the other. -/
lemma family_eq (s : Schema) (name : String) :
    family s name = (name, s) :: familyOfEntries (s.entries .definitions) := by
  have hfamily : family s name = (name, s) :: familyOfParts s.parts := by
    obtain ⟨parts, extra⟩ := s
    rw [family]
    rfl
  rw [hfamily, familyOfParts_eq]

/-- A definition is smaller than the schema that it stands in.

**Proof sketch.** The entries are those of a part, the part is one of the parts of the schema, and
each step down makes the size smaller. -/
lemma sizeOf_lt_of_mem_entries {s t : Schema} {k : Key} {n : String}
    (h : (n, Sub.schema t) ∈ s.entries k) : sizeOf t < sizeOf s := by
  obtain ⟨parts, extra⟩ := s
  unfold Schema.entries at h
  split at h
  · next es hpart =>
    obtain ⟨⟨k', p⟩, hfind, rfl⟩ := Option.map_eq_some_iff.1 hpart
    have hparts := List.sizeOf_lt_of_mem (List.mem_of_find?_eq_some hfind)
    have hes := List.sizeOf_lt_of_mem h
    simp only [Schema.parts, Prod.mk.sizeOf_spec, Part.named.sizeOf_spec, Sub.schema.sizeOf_spec,
      Schema.mk.sizeOf_spec] at hparts hes ⊢
    omega
  · cases h

/-- To show something of a schema, it may be assumed of the definitions inside it. -/
@[elab_as_elim]
theorem definition_induction {motive : Schema → Prop}
    (step : ∀ s : Schema,
      (∀ n t, (n, Sub.schema t) ∈ s.entries .definitions → motive t) → motive s)
    (s : Schema) : motive s :=
  step s fun _ t ht =>
    have : sizeOf t < sizeOf s := sizeOf_lt_of_mem_entries ht
    definition_induction step t
termination_by sizeOf s

end Schema

namespace Catalog

variable {c c' c'' f : Catalog} {name : String} {s : Schema} {ds es : List (String × Schema)}

/-! ## Held definitions -/

/-- A catalog holds a definition: under its name there is a schema that has the same text, apart from
examples and from the definitions inside it. -/
def Holds (c : Catalog) (d : String × Schema) : Prop :=
  ∃ t text, c.get? d.1 = some t ∧ essenceText? t = some text ∧
    essenceText? (d.2.drop .definitions) = some text

/-- The second catalog keeps the texts of the first one: whatever is found in the first one has the same
text in the second one, apart from examples. -/
def Keeps (c c' : Catalog) : Prop :=
  ∀ name s, c.get? name = some s → ∃ t, c'.get? name = some t ∧ essenceText? t = essenceText? s

/-- Definitions that can be added to a catalog in this order and are all held afterwards. Each of them
can be written, apart from the definitions inside it; and those whose name is taken, in the catalog or
by one before, have no definitions inside them. -/
structure Placeable (c : Catalog) (ds : List (String × Schema)) : Prop where
  /-- Each of them can be written. -/
  writable : ∀ d ∈ ds, essenceText? (d.2.drop .definitions) ≠ none
  /-- Under a name of the catalog there are no definitions. -/
  taken : ∀ d ∈ ds, d.1 ∈ c.names → d.2.part? .definitions = none
  /-- Under a name that occurred before there are no definitions. -/
  repeated : ds.Pairwise fun d e => d.1 = e.1 → e.2.part? .definitions = none

/-- A catalog keeps its own texts. -/
lemma Keeps.refl (c : Catalog) : Keeps c c := fun _ s hs => ⟨s, hs, rfl⟩

/-- Keeping can be continued. -/
lemma Keeps.trans (h : Keeps c c') (h' : Keeps c' c'') : Keeps c c'' := by
  intro name s hs
  obtain ⟨t, ht, htext⟩ := h name s hs
  obtain ⟨u, hu, htext'⟩ := h' name t ht
  exact ⟨u, hu, htext'.trans htext⟩

/-- What is held is held by a catalog that keeps all texts. -/
lemma Keeps.holds (h : Keeps c c') {d : String × Schema} (hd : c.Holds d) : c'.Holds d := by
  obtain ⟨t, text, ht, htext, hdropped⟩ := hd
  obtain ⟨u, hu, htext'⟩ := h d.1 t ht
  exact ⟨u, text, hu, htext'.trans htext, hdropped⟩

/-- The name of a definition that is held is registered. -/
lemma Holds.mem_names {d : String × Schema} (h : c.Holds d) : d.1 ∈ c.names := by
  obtain ⟨t, -, ht, -⟩ := h
  rw [mem_names_iff, ht, Option.isSome_some]

/-- A schema that is stored is held, if it can be written. -/
lemma holds_store (h : essenceText? (s.drop .definitions) ≠ none) :
    (c.store name s).Holds (name, s) := by
  obtain ⟨text, htext⟩ := Option.ne_none_iff_exists'.1 h
  exact ⟨s.drop .definitions, text, by rw [get?_store, if_pos rfl], htext, htext⟩

/-- A store under a new name keeps all texts. -/
lemma keeps_store_of_new (hnew : c.get? name = none) : Keeps c (c.store name s) := by
  intro other t ht
  have hne : name ≠ other := by
    rintro rfl
    rw [hnew] at ht
    cases ht
  exact ⟨t, by rw [get?_store, if_neg hne, ht], rfl⟩

/-- What can be placed can be placed one part after the other, the second part in a catalog that has the
names of the first one.

**Proof sketch.** What can be placed is a matter of each definition and of each pair of them. A pair
across the two parts is one definition of the second part whose name the catalog has taken from the
first. -/
lemma placeable_append_iff
    (hnames : ∀ n, n ∈ c'.names ↔ n ∈ c.names ∨ n ∈ ds.map (·.1)) :
    Placeable c (ds ++ es) ↔ Placeable c ds ∧ Placeable c' es := by
  constructor
  · rintro ⟨hwritable, htaken, hrepeated⟩
    rw [List.forall_mem_append] at hwritable htaken
    obtain ⟨hds, hes, hboth⟩ := List.pairwise_append.1 hrepeated
    refine ⟨⟨hwritable.1, htaken.1, hds⟩, ⟨hwritable.2, fun e he hname => ?_, hes⟩⟩
    rcases (hnames e.1).1 hname with hname | hname
    · exact htaken.2 e he hname
    · obtain ⟨d, hd, heq⟩ := List.mem_map.1 hname
      exact hboth d hd e he heq
  · rintro ⟨hds, hes⟩
    refine ⟨List.forall_mem_append.2 ⟨hds.writable, hes.writable⟩,
      List.forall_mem_append.2 ⟨hds.taken, fun e he hname => ?_⟩,
      List.pairwise_append.2 ⟨hds.repeated, hes.repeated, fun d hd e he heq => ?_⟩⟩
    · exact hes.taken e he ((hnames e.1).2 (.inl hname))
    · exact hes.taken e he ((hnames e.1).2 (.inr (List.mem_map.2 ⟨d, hd, heq⟩)))

/-! ## Settling -/

/-- What it takes to get from a catalog to another one by adding definitions in order. The names are
those that were there, and at most those of the definitions besides. If the definitions can be placed,
all texts are kept and all definitions are held; and only if they can be placed, that may be so in any
catalog that comes later. -/
structure Settles (c : Catalog) (ds : List (String × Schema)) (c' : Catalog) : Prop where
  /-- New names are those of definitions. -/
  new : ∀ n ∈ c'.names, n ∈ c.names ∨ n ∈ ds.map (·.1)
  /-- No name is lost. -/
  stays : ∀ n ∈ c.names, n ∈ c'.names
  /-- What can be placed is held. -/
  holds : Placeable c ds → Keeps c c' ∧ ∀ d ∈ ds, c'.Holds d
  /-- What is held could be placed. -/
  placeable : ∀ f, Keeps c f → (∀ d ∈ ds, Holds f d) → Placeable c ds ∧ Keeps c' f

/-- If the definitions can be placed, their names are registered. -/
lemma Settles.mem_names_iff (h : Settles c ds c') (hds : Placeable c ds) (n : String) :
    n ∈ c'.names ↔ n ∈ c.names ∨ n ∈ ds.map (·.1) := by
  refine ⟨h.new n, ?_⟩
  rintro (hn | hn)
  · exact h.stays n hn
  · obtain ⟨d, hd, rfl⟩ := List.mem_map.1 hn
    exact ((h.holds hds).2 d hd).mem_names

/-- Without definitions nothing has to be settled. -/
lemma Settles.nil (c : Catalog) : Settles c [] c where
  new _ hn := .inl hn
  stays _ hn := hn
  holds _ := ⟨.refl c, nofun⟩
  placeable _ hkeeps _ := ⟨⟨nofun, nofun, .nil⟩, hkeeps⟩

/-- **Definitions can be settled one part after the other.**

**Proof sketch.** If all of them can be placed, the first part can be placed, which makes its names
registered, and so the second part can be placed after it. If all of them are held later on, those of
the first part are, so they could be placed and their texts are kept until then, and the same holds for
the second part. -/
lemma Settles.append (h : Settles c ds c') (h' : Settles c' es c'') : Settles c (ds ++ es) c'' where
  new n hn := by
    rw [List.map_append, List.mem_append, ← or_assoc]
    exact (h'.new n hn).imp_left (h.new n)
  stays n hn := h'.stays n (h.stays n hn)
  holds hall := by
    have hds : Placeable c ds :=
      ⟨fun d hd => hall.writable d (List.mem_append_left es hd),
        fun d hd => hall.taken d (List.mem_append_left es hd),
        (List.pairwise_append.1 hall.repeated).1⟩
    have hes := ((placeable_append_iff (h.mem_names_iff hds)).1 hall).2
    obtain ⟨hkeeps, hheld⟩ := h.holds hds
    obtain ⟨hkeeps', hheld'⟩ := h'.holds hes
    exact ⟨hkeeps.trans hkeeps',
      List.forall_mem_append.2 ⟨fun d hd => hkeeps'.holds (hheld d hd), hheld'⟩⟩
  placeable f hkeeps hheld := by
    rw [List.forall_mem_append] at hheld
    obtain ⟨hds, hkeeps'⟩ := h.placeable f hkeeps hheld.1
    obtain ⟨hes, hkeeps''⟩ := h'.placeable f hkeeps' hheld.2
    exact ⟨(placeable_append_iff (h.mem_names_iff hds)).2 ⟨hds, hes⟩, hkeeps''⟩

/-- A schema is settled by storing it under a new name.

**Proof sketch.** The new name is the only one that is added. What the catalog kept is still there,
and whatever keeps the catalog and holds the definition must be able to write it, without examples
if the name was taken. -/
lemma settles_store (hnew : c.get? name = none) : Settles c [(name, s)] (c.store name s) where
  new n hn := by
    rcases mem_names_store.1 hn with rfl | hn
    · exact .inr (by simp)
    · exact .inl hn
  stays n hn := mem_names_store.2 (.inr hn)
  holds h :=
    ⟨keeps_store_of_new hnew,
      List.forall_mem_singleton.2 (holds_store (h.writable _ (List.mem_singleton_self _)))⟩
  placeable f hkeeps hheld := by
    obtain ⟨t, text, ht, htext, hdropped⟩ := hheld _ (List.mem_singleton_self _)
    refine ⟨⟨?_, ?_, List.pairwise_singleton _ _⟩, fun other u hu => ?_⟩
    · exact List.forall_mem_singleton.2 (hdropped ▸ Option.some_ne_none text)
    · refine List.forall_mem_singleton.2 fun hmem => ?_
      rw [Catalog.mem_names_iff, hnew] at hmem
      cases hmem
    · rw [get?_store] at hu
      split at hu
      · next heq =>
        subst heq
        cases hu
        exact ⟨t, ht, htext.trans hdropped.symm⟩
      · exact hkeeps other u hu

/-- A schema without definitions is settled under a name where there is the same schema, by storing it
or by passing it over.

**Proof sketch.** What is under the name afterwards has the text of the schema, which is also that of the
schema without its definitions. -/
lemma settles_taken {old t : Schema} (hold : c.get? name = some old)
    (htext : essenceText? old = essenceText? s) (hflat : s.part? .definitions = none)
    (hget : ∀ n, c'.get? n = if name = n then some t else c.get? n)
    (ht : essenceText? t = essenceText? s) : Settles c [(name, s)] c' where
  new n hn := by
    rw [Catalog.mem_names_iff, hget] at hn
    split at hn
    · next heq => exact .inr (by simp [heq])
    · exact .inl (Catalog.mem_names_iff.2 hn)
  stays n hn := by
    rw [Catalog.mem_names_iff, hget]
    split
    · rfl
    · exact Catalog.mem_names_iff.1 hn
  holds h := by
    obtain ⟨text, hwritten⟩ :=
      Option.ne_none_iff_exists'.1 (h.writable _ (List.mem_singleton_self _))
    refine ⟨fun n u hu => ?_, List.forall_mem_singleton.2 ⟨t, text, ?_, ?_, hwritten⟩⟩
    · rw [hget]
      split
      · next heq =>
        subst heq
        obtain rfl : u = old := Option.some.inj (hu.symm.trans hold)
        exact ⟨t, rfl, ht.trans htext.symm⟩
      · exact ⟨u, hu, rfl⟩
    · rw [hget, if_pos rfl]
    · rw [ht, ← hwritten, Schema.drop_eq_self hflat]
  placeable f hkeeps hheld := by
    obtain ⟨-, text, -, -, hdropped⟩ := hheld _ (List.mem_singleton_self _)
    refine ⟨⟨?_, ?_, List.pairwise_singleton _ _⟩, fun n u hu => ?_⟩
    · exact List.forall_mem_singleton.2 (hdropped ▸ Option.some_ne_none text)
    · exact List.forall_mem_singleton.2 fun _ => hflat
    · rw [hget] at hu
      split at hu
      · next heq =>
        subst heq
        cases hu
        obtain ⟨v, hv, htext'⟩ := hkeeps name old hold
        exact ⟨v, hv, htext'.trans (htext.trans ht.symm)⟩
      · exact hkeeps n u hu

/-- A schema with definitions is not settled under a name where there is the same schema, and cannot be
placed there.

**Proof sketch.** If the text under the name is kept, it is the text of the schema with its definitions.
If the schema is held, it is also the text without them. But the two differ. -/
lemma settles_of_not_placeable {old : Schema} (hold : c.get? name = some old)
    (htext : essenceText? old = essenceText? s) (hnested : s.part? .definitions ≠ none)
    (hmem : (name, s) ∈ ds) (hnew : ∀ n ∈ c'.names, n ∈ c.names ∨ n ∈ ds.map (·.1))
    (hstays : ∀ n ∈ c.names, n ∈ c'.names) : Settles c ds c' where
  new := hnew
  stays := hstays
  holds h := by
    refine absurd (h.taken _ hmem ?_) hnested
    rw [Catalog.mem_names_iff, hold, Option.isSome_some]
  placeable f hkeeps hheld := by
    obtain ⟨t, text, ht, hwritten, hdropped⟩ := hheld _ hmem
    obtain ⟨u, hu, hkept⟩ := hkeeps name old hold
    obtain rfl : t = u := Option.some.inj (ht.symm.trans hu)
    have hsame : essenceText? s = some text := by rw [← htext, ← hkept, hwritten]
    have heq := essenceText?_drop_definitions_eq_iff.1 (hdropped.trans hsame.symm)
    exact absurd (heq.1 (hsame ▸ Option.some_ne_none text)) hnested

/-- Definitions that were added are settled with their families, if each of them would be.

**Proof sketch.** By induction on the entries, where each entry that is a schema is settled by
assumption and the others change nothing. The parts are put together by `Settles.append`. -/
lemma settles_addEntries {entries : List (String × Sub)}
    (h : ∀ n t, (n, Sub.schema t) ∈ entries → ∀ (c c' : Catalog),
      add t n c = (c', .ok ()) → Settles c (family t n) c')
    (hok : addEntries entries c = (c', .ok ())) : Settles c (familyOfEntries entries) c' := by
  induction entries generalizing c with
  | nil =>
    rw [addEntries] at hok
    obtain rfl : c = c' := congrArg Prod.fst hok
    exact .nil c
  | cons entry rest ih =>
    obtain ⟨n, sub⟩ := entry
    rw [addEntries] at hok
    split at hok
    · next c₁ hsub =>
      refine Settles.append ?_ (ih (fun n t ht => h n t (List.mem_cons_of_mem _ ht)) hok)
      cases sub with
      | schema t => exact h n t List.mem_cons_self c c₁ hsub
      | truth _ | nothing | names _ =>
        obtain rfl : c = c₁ := congrArg Prod.fst hsub
        exact .nil c
    · next hrefused => exact absurd hok (hrefused c')

/-- **A schema that was added is settled with its family.**

**Proof sketch.** By induction over the definitions inside it. Under a new name the schema is settled by
storing it, and then its definitions are. Under a name that is taken there is the same schema. If the
schema has no definitions, it is its whole family, and it is settled by storing it or by passing it
over; and if it has some, nothing is claimed. -/
theorem settles_add (s : Schema) :
    ∀ (name : String) (c c' : Catalog), add s name c = (c', .ok ()) → Settles c (family s name) c' := by
  induction s using Schema.definition_induction with
  | step s ih =>
    intro name c c' hok
    have hrun := run_add s name c
    rw [hok] at hrun
    have hnew : ∀ n ∈ c'.names, n ∈ c.names ∨ n ∈ (family s name).map (·.1) := fun n hn =>
      ((hrun.mem_names n).1 hn).imp_right fun hlog =>
        ((added_sublist_family s name c).map _).subset hlog
    have hstays : ∀ n ∈ c.names, n ∈ c'.names := fun n hn => (hrun.mem_names n).2 (.inl hn)
    have hmem : (name, s) ∈ family s name := by
      rw [Schema.family_eq]
      exact List.mem_cons_self
    by_cases hflat : s.part? .definitions = none
    · have hfamily : family s name = [(name, s)] := by
        rw [Schema.family_eq, entries_eq_nil hflat, familyOfEntries]
      rw [hfamily]
      rw [add_eq, entries_eq_nil hflat] at hok
      cases hjudge : c.judge name s with
      | error r => simp [hjudge] at hok
      | ok stored =>
        cases stored with
        | false =>
          obtain ⟨-, old, hold, hsame, -⟩ := judge_eq_false_iff.1 hjudge
          obtain rfl : c' = c := by simpa [hjudge, eq_comm] using hok
          refine settles_taken hold (isSame_iff.1 hsame) hflat (t := old) (fun n => ?_)
            (isSame_iff.1 hsame)
          split
          · next heq => rw [← heq, hold]
          · rfl
        | true =>
          obtain rfl : c.store name s = c' := by simpa [hjudge, addEntries] using hok
          obtain ⟨-, ⟨old, hold, hsame, -⟩ | ⟨hnone, -⟩⟩ := judge_eq_true_iff.1 hjudge
          · exact settles_taken hold (isSame_iff.1 hsame) hflat (t := s.drop .definitions)
              (fun n => get?_store) (by rw [Schema.drop_eq_self hflat])
          · exact settles_store hnone
    · rw [add_eq] at hok
      cases hjudge : c.judge name s with
      | error r => simp [hjudge] at hok
      | ok stored =>
        cases stored with
        | false =>
          obtain ⟨-, old, hold, hsame, -⟩ := judge_eq_false_iff.1 hjudge
          exact settles_of_not_placeable hold (isSame_iff.1 hsame) hflat hmem hnew hstays
        | true =>
          obtain ⟨-, ⟨old, hold, hsame, -⟩ | ⟨hnone, -⟩⟩ := judge_eq_true_iff.1 hjudge
          · exact settles_of_not_placeable hold (isSame_iff.1 hsame) hflat hmem hnew hstays
          · rw [Schema.family_eq]
            rw [hjudge] at hok
            exact (settles_store hnone).append
              (settles_addEntries (fun n t ht c c' => ih n t ht n c c') hok)

/-! ## Calls -/

end Catalog

end SchemaKit
