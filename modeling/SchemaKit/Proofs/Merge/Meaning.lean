import Mathlib.Data.List.Perm.Basic
import SchemaKit.Proofs.Merge.Conjunction

/-!
# What a merge makes of documents

Documents are merged property by property. Of the values that they give to one property, a strategy
chooses the first or the last one, or refuses to choose if there are several. Required names are
collected from all documents. This says what the merged schema is without going through the
documents one after the other, so that strategies and orders of the documents can be compared.

## Main definitions

* `SchemaKit.Merge.Reads` — the fragments that are read from texts.
* `SchemaKit.Merge.declared` — the values that fragments give to a property.
* `SchemaKit.Merge.Strategy.chosen?` — the value that a strategy chooses.
* `SchemaKit.Merge.Unites` — what fragments are united to.
* `SchemaKit.Merge.MergedFrom` — what a merged schema says.

## Main results

* `SchemaKit.Merge.declareAll?_eq_some_iff` — what becomes of a property.
* `SchemaKit.Merge.mergedText_eq_ok_iff` — a merged text is that of the united fragments.
* `SchemaKit.Merge.mergedText_ofCode_spec` — when documents are merged, and to what.
* `SchemaKit.Merge.mergedText_strategies` — strategies agree, and mirror each other.
-/

namespace SchemaKit.Merge

open Json (readWhole lookup?)

/-! ## One property -/

/-- Of several values for one property, the one that a strategy chooses. -/
def Strategy.chosen? (s : Strategy) (vs : List Json) : Option Json :=
  match s with
  | .keep => vs.head?
  | .overwrite | .refuse => vs.getLast?

/-- **What becomes of a property** that had no value before: it gets the chosen one, and several
values are refused under the strategy that refuses.

**Proof sketch.** By the strategy. Overwriting leaves the last value, keeping the first, and
refusing fails at the second. -/
lemma declareAll?_eq_some_iff {s : Strategy} {vs : List Json} {new : Option Json} :
    s.declareAll? none vs = some new ↔
      (s = .refuse → vs.length ≤ 1) ∧ new = s.chosen? vs := by
  cases s with
  | overwrite => simp [declareAll?_overwrite, Strategy.chosen?, eq_comm]
  | keep =>
    cases vs with
    | nil => simp [Strategy.declareAll?, Strategy.chosen?, eq_comm]
    | cons v vs =>
      simp [Strategy.declareAll?, Strategy.declare?, declareAll?_keep, Strategy.chosen?, eq_comm]
  | refuse =>
    obtain _ | ⟨v, _ | ⟨v', vs⟩⟩ := vs
    · simp [Strategy.declareAll?, Strategy.chosen?, eq_comm]
    · simp [Strategy.declareAll?, Strategy.declare?, Strategy.chosen?, eq_comm]
    · simp [Strategy.declareAll?, Strategy.declare?]

/-- At most one value is chosen under every strategy. -/
lemma chosen?_eq_of_perm {vs vs' : List Json} (h : vs.length ≤ 1) (hperm : vs'.Perm vs)
    (s s' : Strategy) : s.chosen? vs' = s'.chosen? vs := by
  obtain _ | ⟨v, _ | ⟨v', vs⟩⟩ := vs
  · obtain rfl := hperm.eq_nil
    cases s <;> cases s' <;> rfl
  · obtain rfl := hperm.eq_singleton
    cases s <;> cases s' <;> rfl
  · simp at h

/-- The first value is the last one in reverse order. -/
lemma chosen?_reverse (vs : List Json) :
    Strategy.overwrite.chosen? vs.reverse = Strategy.keep.chosen? vs :=
  List.getLast?_reverse

/-! ## Several fragments -/

/-- The values that fragments give to a property, in the order of the fragments. -/
def declared (fs : List Fragment) (name : String) : List Json :=
  fs.filterMap fun f => lookup? f.properties name

/-- The value that the first fragment gives to a property, and those of the others. -/
lemma declared_cons (f : Fragment) (fs : List Fragment) (name : String) :
    declared (f :: fs) name = (lookup? f.properties name).toList ++ declared fs name := by
  rw [declared, declared, List.filterMap_cons]
  cases lookup? f.properties name <;> rfl

/-- Two fragments declare no property in common. -/
def Fragment.Apart (f g : Fragment) : Prop :=
  ∀ name ∈ f.properties.map (·.1), name ∉ g.properties.map (·.1)

/-- A property has no value iff no fragment declares it. -/
lemma declared_eq_nil_iff {fs : List Fragment} {name : String} :
    declared fs name = [] ↔ ∀ f ∈ fs, name ∉ f.properties.map (·.1) := by
  simp only [declared, List.filterMap_eq_nil_iff, ← Json.isSome_lookup?_iff,
    Option.not_isSome_iff_eq_none]

/-- **No property is declared twice** iff the fragments are apart two by two.

**Proof sketch.** Induction on the fragments. A name is declared at most once by all of them iff the
first one leaves it to the others or they to it. -/
lemma length_declared_le_one_iff {fs : List Fragment} :
    (∀ name, (declared fs name).length ≤ 1) ↔ fs.Pairwise Fragment.Apart := by
  induction fs with
  | nil => simp [declared]
  | cons f fs ih =>
    have hcons : ∀ name, (declared (f :: fs) name).length ≤ 1 ↔
        (name ∈ f.properties.map (·.1) → declared fs name = []) ∧
          (declared fs name).length ≤ 1 := by
      intro name
      rw [← Json.isSome_lookup?_iff, declared_cons, ← List.length_eq_zero_iff]
      cases lookup? f.properties name with
      | none => simp
      | some v =>
        simp only [Option.toList_some, List.cons_append, List.nil_append, List.length_cons,
          Option.isSome_some, forall_const]
        omega
    simp only [hcons, forall_and, ih, List.pairwise_cons, declared_eq_nil_iff]
    refine and_congr_left fun _ => ?_
    exact ⟨fun h g hg name hname => h name hname g hg, fun h name hname g hg => h g hg name hname⟩

/-- The values of a name among the entries of several tables in order. -/
lemma valuesOf_flatten {tables : List Entries} (h : ∀ es ∈ tables, Ascending es) (name : String) :
    valuesOf name tables.flatten = tables.filterMap (lookup? · name) := by
  induction tables with
  | nil => rfl
  | cons es rest ih =>
    rw [List.forall_mem_cons] at h
    have happend : valuesOf name (es ++ rest.flatten) =
        valuesOf name es ++ valuesOf name rest.flatten := List.filterMap_append
    rw [List.flatten_cons, happend, h.1.valuesOf, ih h.2, List.filterMap_cons]
    cases lookup? es name <;> rfl

/-- The values of a property among all the properties of fragments in order. -/
lemma valuesOf_flatMap {fs : List Fragment} (h : ∀ f ∈ fs, Ascending f.properties) (name : String) :
    valuesOf name (fs.flatMap (·.properties)) = declared fs name := by
  rw [List.flatMap_def, valuesOf_flatten (List.forall_mem_map.2 h), List.filterMap_map]
  rfl

/-- What fragments are united to: each property has the value that is chosen among those that are
declared, and all required names are there. -/
structure Unites (s : Strategy) (fs : List Fragment) (f : Fragment) : Prop where
  /-- Properties and names are in order. -/
  inOrder : f.InOrder
  /-- Nothing is declared twice if that is refused. -/
  single : s = .refuse → ∀ name, (declared fs name).length ≤ 1
  /-- The values of properties. -/
  value : ∀ name, lookup? f.properties name = s.chosen? (declared fs name)
  /-- The required names. -/
  required : ∀ n, n ∈ f.required ↔ ∃ g ∈ fs, n ∈ g.required

namespace Unites

variable {fs fs' : List Fragment} {f : Fragment}

/-- **Fragments that declare nothing twice** are united under every strategy and in every order. -/
lemma perm (h : Unites .refuse fs f) (hperm : fs'.Perm fs) (s : Strategy) : Unites s fs' f where
  inOrder := h.inOrder
  single := fun _ name => (hperm.filterMap _).length_eq.trans_le (h.single rfl name)
  value := fun name =>
    (h.value name).trans
      (chosen?_eq_of_perm (h.single rfl name) (hperm.filterMap _) s .refuse).symm
  required := fun n => by simp only [h.required, hperm.mem_iff]

/-- **The first values are kept** where the last ones overwrite in reverse order. -/
lemma mirror (h : Unites .keep fs f) : Unites .overwrite fs.reverse f where
  inOrder := h.inOrder
  single := nofun
  value := fun name => by
    rw [h.value, ← chosen?_reverse, declared, declared, List.filterMap_reverse]
  required := fun n => by simp only [h.required, List.mem_reverse]

end Unites

/-! ## Texts -/

/-- The fragments that are read from texts, one from each of them. -/
def Reads (texts : List (List Char)) (fs : List Fragment) : Prop :=
  List.Forall₂ (fun t f => Fragment.ofText? t = some f) texts fs

/-- Properties stay in order while they are read. -/
lemma keptBelow_ascending (d : Nat) : KeptBelow Ascending d :=
  fun _ _ _ _ _ _ hes => Json.pairwise_keys_insertSorted hes

/-- The properties of a text are in order. -/
lemma ascending_of_ofText? {text : List Char} {f : Fragment} (h : Fragment.ofText? text = some f) :
    Ascending f.properties :=
  (keptBelow_ascending _).of_ofText? ascending_nil h

section

variable {s : Strategy} {strict : Bool} {texts texts' : List (List Char)} {fs : List Fragment}
  {f : Fragment} {out : List Char}

/-- Something is made of every item of a list, or nothing of the list. -/
lemma mapM_eq_some_iff {α β : Type} {f : α → Option β} {xs : List α} {ys : List β} :
    xs.mapM f = some ys ↔ List.Forall₂ (fun x y => f x = some y) xs ys := by
  induction xs generalizing ys with
  | nil => simp [eq_comm]
  | cons x rest ih =>
    rw [List.forall₂_cons_left_iff, List.mapM_cons]
    simp only [Option.bind_eq_bind, Option.bind_eq_some_iff, Option.pure_def, Option.some.injEq, ih]
    exact ⟨fun ⟨y, hy, ys, hys, h⟩ => ⟨y, ys, hy, hys, h.symm⟩,
      fun ⟨y, ys, hy, hys, h⟩ => ⟨y, hy, ys, hys, h.symm⟩⟩

/-- Fragments are read from all texts or from none. -/
lemma reads_iff : Reads texts fs ↔ texts.mapM Fragment.ofText? = some fs :=
  mapM_eq_some_iff.symm

namespace Reads

/-- The fragments of texts have their properties in order. -/
lemma ascending (h : Reads texts fs) : ∀ f ∈ fs, Ascending f.properties := by
  induction h with
  | nil => exact nofun
  | cons hf _ ih => exact List.forall_mem_cons.2 ⟨ascending_of_ofText? hf, ih⟩

/-- Texts have one list of fragments. -/
lemma unique {fs' : List Fragment} (h : Reads texts fs) (h' : Reads texts fs') : fs = fs' :=
  Option.some.inj ((reads_iff.1 h).symm.trans (reads_iff.1 h'))

/-- Texts in another order have their fragments in another order. -/
lemma perm (h : Reads texts fs) (hperm : texts'.Perm texts) :
    ∃ fs', Reads texts' fs' ∧ fs'.Perm fs :=
  List.perm_comp_forall₂ hperm h

/-- Texts in reverse order have their fragments in reverse order. -/
lemma reverse (h : Reads texts fs) : Reads texts.reverse fs.reverse :=
  List.forall₂_reverse_iff.2 h

/-- What is gathered from texts is what all their properties and names are joined to. -/
lemma gather?_eq (h : Reads texts fs) (s : Strategy) :
    gather? s .blank texts = (addProperties s [] (fs.flatMap (·.properties))).toOption.map
      (⟨·, insertNames [] (fs.flatMap (·.required))⟩) := by
  rw [gather?, foldlM_bind_eq, reads_iff.1 h, Option.bind_some, foldlM_join?_eq_map]
  rfl

/-- **What is gathered from texts is what their fragments are united to.**

**Proof sketch.** By `addProperties_eq_some_iff` the gathered properties are decided name by name,
with the chosen one of the declared values. The required names are in order on both sides, and the
same ones. -/
lemma gather?_eq_some_iff (h : Reads texts fs) :
    gather? s .blank texts = some f ↔ Unites s fs f := by
  have hproperties : ∀ ps, (addProperties s [] (fs.flatMap (·.properties))).toOption = some ps ↔
      Ascending ps ∧ ∀ name, (s = .refuse → (declared fs name).length ≤ 1) ∧
        lookup? ps name = s.chosen? (declared fs name) := by
    intro ps
    simp only [addProperties_eq_some_iff ascending_nil, valuesOf_flatMap h.ascending,
      ← declareAll?_eq_some_iff]
    rfl
  have hmem : ∀ n, n ∈ insertNames [] (fs.flatMap (·.required)) ↔ ∃ g ∈ fs, n ∈ g.required := by
    simp [mem_insertNames]
  rw [h.gather?_eq, Option.map_eq_some_iff]
  constructor
  · rintro ⟨ps, hps, rfl⟩
    obtain ⟨hasc, hall⟩ := (hproperties ps).1 hps
    exact ⟨⟨hasc, pairwise_insertNames .nil⟩, fun hs name => (hall name).1 hs,
      fun name => (hall name).2, hmem⟩
  · intro hunites
    refine ⟨f.properties, (hproperties _).2 ⟨hunites.inOrder.properties, fun name =>
      ⟨fun hs => hunites.single hs name, hunites.value name⟩⟩, ?_⟩
    have hrequired : insertNames [] (fs.flatMap (·.required)) = f.required :=
      eq_of_pairwise_of_mem_iff (pairwise_insertNames .nil) hunites.inOrder.required fun n => by
        rw [hmem, hunites.required]
    rw [hrequired]

/-- **Fragments are united** unless a property is declared twice and that is refused.

**Proof sketch.** If no property is declared twice, or that is allowed, then no declaration is
refused, so all properties can be added. -/
lemma exists_unites_iff (h : Reads texts fs) :
    (∃ f, Unites s fs f) ↔ (s = .refuse → fs.Pairwise Fragment.Apart) := by
  rw [← length_declared_le_one_iff]
  refine ⟨fun ⟨f, hf⟩ => hf.single, fun hsingle => ?_⟩
  simp only [← h.gather?_eq_some_iff, h.gather?_eq, Option.map_eq_some_iff]
  cases hadd : addProperties s [] (fs.flatMap (·.properties)) with
  | ok ps => exact ⟨_, ps, rfl, rfl⟩
  | error e =>
    obtain ⟨name, hnone⟩ := addProperties_eq_error hadd
    have hsome : s.declareAll? none (declared fs name) = some (s.chosen? (declared fs name)) :=
      declareAll?_eq_some_iff.2 ⟨fun hs => hsingle hs name, rfl⟩
    rw [valuesOf_flatMap h.ascending] at hnone
    cases hnone.symm.trans hsome

end Reads

/-- **A merged text is that of the united fragments.**

**Proof sketch.** A merge succeeds with the text of the gathered fragment, and gathering is uniting
by `gather?_eq_some_iff`. -/
lemma mergedText_eq_ok_iff (hne : texts ≠ []) :
    mergedText s strict texts = .ok out ↔
      ∃ fs f, Reads texts fs ∧ Unites s fs f ∧ (f.document strict).indented.toList = out := by
  constructor
  · intro hout
    have hmerged := mergedText_toOption s strict hne
    rw [hout] at hmerged
    obtain ⟨f, hgather, htext⟩ := Option.map_eq_some_iff.1 hmerged.symm
    obtain ⟨fs, hfs, -⟩ := Option.bind_eq_some_iff.1
      ((foldlM_bind_eq _ _ _ _).symm.trans hgather)
    have hreads : Reads texts fs := reads_iff.2 hfs
    exact ⟨fs, f, hreads, hreads.gather?_eq_some_iff.1 hgather, htext⟩
  · rintro ⟨fs, f, hreads, hunites, rfl⟩
    exact mergedText_eq_ok hne (hreads.gather?_eq_some_iff.2 hunites)

end

/-! ## The merged schema -/

/-- What a merged schema says under the strategy with a number: the members that it has, and what is
in them. Of the values that fragments give to a property, the number 2 asks for the first one, and
every other number for the last one. -/
structure MergedFrom (code : Int) (strict : Bool) (fs : List Fragment)
    (members : List (String × Json)) : Prop where
  /-- No member is repeated. -/
  ascending : (members.map (·.1)).Pairwise (· < ·)
  /-- The kind of values. -/
  type : lookup? members "type" = some (.str "object")
  /-- The properties: exactly those that are declared, each with the chosen value. -/
  properties : ∃ ps, lookup? members "properties" = some (.obj ps) ∧ Ascending ps ∧
    (∀ name, name ∈ ps.map (·.1) ↔ ∃ f ∈ fs, name ∈ f.properties.map (·.1)) ∧
    ∀ name, lookup? ps name =
      if code = 2 then (declared fs name).head? else (declared fs name).getLast?
  /-- The required names, if there are any. -/
  required : ∃ names : List String, names.Pairwise (· < ·) ∧
    (∀ n, n ∈ names ↔ ∃ f ∈ fs, n ∈ f.required) ∧
    lookup? members "required" = if names = [] then none else some (.arr (names.map .str))
  /-- A strict schema is closed. -/
  closed : lookup? members "additionalProperties" = if strict then some (.bool false) else none
  /-- There are no other members. -/
  only : ∀ m ∈ members, m.1 ∈ ["additionalProperties", "properties", "required", "type"]

/-- One number refuses. -/
lemma Strategy.ofCode_eq_refuse_iff {code : Int} : Strategy.ofCode code = .refuse ↔ code = 1 := by
  unfold Strategy.ofCode
  split_ifs with h h' <;> simp [h]

/-- One number chooses the first value, and every other number the last one. -/
lemma Strategy.chosen?_ofCode (code : Int) (vs : List Json) :
    (Strategy.ofCode code).chosen? vs = if code = 2 then vs.head? else vs.getLast? := by
  unfold Strategy.ofCode
  split_ifs with h h'
  · omega
  · rfl
  · rfl
  · rfl

/-- The document of united fragments says what a merged schema says.

**Proof sketch.** The members of the document are given one by one, and each part of the statement
is read off them. The value under a name is the chosen one. -/
lemma Unites.mergedFrom {code : Int} {fs : List Fragment} {f : Fragment}
    (h : Unites (.ofCode code) fs f) (strict : Bool) :
    ∃ members, f.document strict = .obj members ∧ MergedFrom code strict fs members := by
  have hvalue : ∀ name, lookup? f.properties name =
      if code = 2 then (declared fs name).head? else (declared fs name).getLast? :=
    fun name => (h.value name).trans (Strategy.chosen?_ofCode code _)
  refine ⟨_, document_eq strict, Validation.pairwise_keys_objectMembers _ _ _, ?_,
    ⟨f.properties, ?_, h.inOrder.properties, fun name => ?_, hvalue⟩,
    ⟨f.required, h.inOrder.required, h.required, ?_⟩, ?_, fun m hm => ?_⟩
  · cases strict <;> cases f.required <;> rfl
  · cases strict <;> cases f.required <;> rfl
  · rw [← Json.isSome_lookup?_iff, hvalue]
    have hdeclared : declared fs name ≠ [] ↔ ∃ g ∈ fs, name ∈ g.properties.map (·.1) := by
      simp [declared_eq_nil_iff]
    rw [← hdeclared]
    split <;> simp
  · cases strict <;> cases f.required <;> rfl
  · cases strict <;> cases f.required <;> rfl
  · obtain ⟨-, rfl⟩ | ⟨v, -, rfl⟩ | ⟨v, -, rfl⟩ | rfl := Validation.mem_objectMembers.1 hm <;> simp

/-- **When documents are merged, and to what.** At least one document is given, and the strategy by
its number. The documents are merged iff all of them can be read and, under the number 1, no
property is declared by two of them. The merged text is then an object that says what a merged
schema says.

**Proof sketch.** The first part is `mergedText_eq_ok_iff` with `exists_unites_iff`. For the second
part, the fragments are determined by the texts, the document is read back since it is sound, and it
says what `mergedFrom` says. -/
theorem mergedText_ofCode_spec (code : Int) (strict : Bool) {texts : List (List Char)}
    (hne : texts ≠ []) :
    ((∃ out, mergedText (.ofCode code) strict texts = .ok out) ↔
        ∃ fs, Reads texts fs ∧ (code = 1 → fs.Pairwise Fragment.Apart)) ∧
      ∀ out fs, mergedText (.ofCode code) strict texts = .ok out → Reads texts fs →
        ∃ members, out = (Json.obj members).indented.toList ∧ readWhole out = some (.obj members) ∧
          MergedFrom code strict fs members := by
  constructor
  · simp only [mergedText_eq_ok_iff hne, ← Strategy.ofCode_eq_refuse_iff]
    constructor
    · rintro ⟨out, fs, f, hreads, hunites, -⟩
      exact ⟨fs, hreads, hreads.exists_unites_iff.1 ⟨f, hunites⟩⟩
    · rintro ⟨fs, hreads, hapart⟩
      obtain ⟨f, hunites⟩ := hreads.exists_unites_iff.2 hapart
      exact ⟨_, fs, f, hreads, hunites, rfl⟩
  · intro out fs hout hreads
    obtain ⟨fs', f, hreads', hunites, rfl⟩ := (mergedText_eq_ok_iff hne).1 hout
    obtain rfl := hreads.unique hreads'
    have hsound : f.Sound := sound_blank.gather? (hreads.gather?_eq_some_iff.2 hunites)
    obtain ⟨members, hdocument, hmerged⟩ := hunites.mergedFrom strict
    exact ⟨members, by rw [hdocument], by
      rw [Json.readWhole_indented (hsound.fits strict), hdocument], hmerged⟩

/-- A fragment that allows or forbids a property and requires it. -/
def ruling (name : String) (allowed : Bool) : Fragment := ⟨[(name, .bool allowed)], [name]⟩

/-- A text with such a fragment. -/
def rulingText (name : String) (allowed : Bool) : List Char :=
  ((ruling name allowed).document false).indented.toList

/-- What is read from such a text. -/
lemma ofText?_rulingText (name : String) (allowed : Bool) :
    Fragment.ofText? (rulingText name allowed) = some (ruling name allowed) := by
  have hsound : (ruling name allowed).Sound :=
    { properties := List.pairwise_singleton _ _
      required := List.pairwise_singleton _ _
      storable := List.forall_mem_singleton.2 ⟨.bool allowed, Nat.le_of_ble_eq_true rfl⟩ }
  exact ofText?_document hsound false

/-- Two texts that disagree about a property are not merged under the number 1. Under a number
without a strategy they are merged.

**Proof sketch.** The texts are read as two fragments that declare the same property, so under the
number 1 they are not apart. -/
theorem mergedText_ofCode_spec_disagreeing :
    [rulingText "a" true, rulingText "a" false] ≠ [] ∧
      (¬∃ out, mergedText (.ofCode 1) true [rulingText "a" true, rulingText "a" false] = .ok out) ∧
      ∃ out members,
        mergedText (.ofCode 7) true [rulingText "a" true, rulingText "a" false] = .ok out ∧
        readWhole out = some (.obj members) ∧
        MergedFrom 7 true [ruling "a" true, ruling "a" false] members := by
  have hne : [rulingText "a" true, rulingText "a" false] ≠ [] := List.cons_ne_nil _ _
  have hreads : Reads [rulingText "a" true, rulingText "a" false]
      [ruling "a" true, ruling "a" false] :=
    .cons (ofText?_rulingText _ _) (.cons (ofText?_rulingText _ _) .nil)
  refine ⟨hne, fun hmerged => ?_, ?_⟩
  · obtain ⟨fs, hfs, hapart⟩ := (mergedText_ofCode_spec 1 true hne).1.1 hmerged
    obtain rfl := hreads.unique hfs
    simpa [ruling, Fragment.Apart] using hapart rfl
  · obtain ⟨hiff, hspec⟩ := mergedText_ofCode_spec 7 true hne
    obtain ⟨out, hout⟩ := hiff.2 ⟨_, hreads, nofun⟩
    obtain ⟨members, -, hread, hmerged⟩ := hspec out _ hout hreads
    exact ⟨out, members, hout, hread, hmerged⟩

/-! ## Strategies and orders -/

/-- **Strategies agree where nothing collides, and mirror each other.** If documents, at least one,
can be merged although collisions are refused, then under every strategy and in every order they are
merged to the same text. If they can be read, then keeping what is there gives the same text as
overwriting in reverse order.

**Proof sketch.** If collisions are refused, the fragments are apart, and then every strategy
chooses the only value there is, in every order. The first of the values is the last one of the
reversed list. -/
theorem mergedText_strategies (strict : Bool) {texts : List (List Char)} (hne : texts ≠ []) :
    (∀ out, mergedText .refuse strict texts = .ok out →
        ∀ (s : Strategy) (texts' : List (List Char)), texts'.Perm texts →
          mergedText s strict texts' = .ok out) ∧
      ((∃ fs, Reads texts fs) → ∃ out, mergedText .keep strict texts = .ok out ∧
        mergedText .overwrite strict texts.reverse = .ok out) := by
  constructor
  · intro out hout s texts' hperm
    obtain ⟨fs, f, hreads, hunites, htext⟩ := (mergedText_eq_ok_iff hne).1 hout
    obtain ⟨fs', hreads', hperm'⟩ := hreads.perm hperm
    have hne' : texts' ≠ [] := fun hnil => hne (hnil ▸ hperm).symm.eq_nil
    exact (mergedText_eq_ok_iff hne').2 ⟨fs', f, hreads', hunites.perm hperm' s, htext⟩
  · rintro ⟨fs, hreads⟩
    obtain ⟨f, hunites⟩ := (hreads.exists_unites_iff (s := .keep)).2 nofun
    refine ⟨_, (mergedText_eq_ok_iff hne).2 ⟨fs, f, hreads, hunites, rfl⟩, ?_⟩
    have hne' : texts.reverse ≠ [] := by simpa using hne
    exact (mergedText_eq_ok_iff hne').2 ⟨fs.reverse, f, hreads.reverse, hunites.mirror, rfl⟩

/-- Texts about different properties in either order, and texts that disagree about one.

**Proof sketch.** The fragments are read from their texts. The first two declare different
properties, the others the same one. -/
theorem mergedText_strategies_ruling :
    [rulingText "a" true, rulingText "b" false] ≠ [] ∧
      (∃ out, mergedText .refuse true [rulingText "a" true, rulingText "b" false] = .ok out ∧
        mergedText .keep true [rulingText "b" false, rulingText "a" true] = .ok out) ∧
      ∃ out, mergedText .keep false [rulingText "a" true, rulingText "a" false] = .ok out ∧
        mergedText .overwrite false [rulingText "a" false, rulingText "a" true] = .ok out := by
  have hne : ∀ t t' : List Char, [t, t'] ≠ [] := fun _ _ => List.cons_ne_nil _ _
  have hreads : ∀ name allowed, Reads [rulingText "a" true, rulingText name allowed]
      [ruling "a" true, ruling name allowed] :=
    fun _ _ => .cons (ofText?_rulingText _ _) (.cons (ofText?_rulingText _ _) .nil)
  have hapart : [ruling "a" true, ruling "b" false].Pairwise Fragment.Apart := by
    simp [ruling, Fragment.Apart]
  obtain ⟨f, hunites⟩ := ((hreads "b" false).exists_unites_iff (s := .refuse)).2 fun _ => hapart
  have hout : mergedText .refuse true [rulingText "a" true, rulingText "b" false] =
      .ok (f.document true).indented.toList :=
    (mergedText_eq_ok_iff (hne _ _)).2 ⟨_, f, hreads "b" false, hunites, rfl⟩
  exact ⟨hne _ _, ⟨_, hout, (mergedText_strategies true (hne _ _)).1 _ hout _ _ (.swap _ _ _)⟩,
    (mergedText_strategies false (hne _ _)).2 ⟨_, hreads "a" false⟩⟩

end SchemaKit.Merge
