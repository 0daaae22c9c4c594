import SchemaKit.Proofs.Merge.Flatten
import SchemaKit.Proofs.Validation.Objects

/-!
# Merging is conjunction

Fragments that declare different properties can be merged without loss: a body is accepted under the
merged schema iff it is accepted under each of the fragments. A strict merge also asks that every
member of the body is declared by one of them.

## Main definitions

* `SchemaKit.Merge.Plain` — the text of an object schema of properties and required names alone.
* `SchemaKit.Merge.Declares` — a text declares a property.
* `SchemaKit.Merge.Tells` — a fragment tells what the text that it was taken from asks for.

## Main results

* `SchemaKit.Merge.Plain.tells` — the fragment of a plain text tells what the text asks for.
* `SchemaKit.Merge.validate_mergedText_iff` — merging is conjunction.
-/

namespace SchemaKit.Merge

open Json (readWhole readFirst lookup?)
open Validation

/-! ## Fragments -/

/-- The text of an object schema that says nothing but which properties there are, and which of them
are required, each of it at most once. It holds no references, its numbers survive as doubles, and
it compiles. -/
structure Plain (text : List Char) (members : List (String × Json)) : Prop where
  read : readWhole text = some (.obj members)
  type : ("type", .str "object") ∈ members
  names : ∀ m ∈ members, m.1 ∈ ["type", "properties", "required"]
  nodup : (members.map (·.1)).Nodup
  portable : Portable (.obj members)
  compiles : ∃ c, compileText text = .ok c

/-- A text declares a property. -/
def Declares (text : List Char) (name : String) : Prop :=
  ∃ members properties, readWhole text = some (.obj members) ∧
    ("properties", .obj properties) ∈ members ∧ name ∈ properties.map (·.1)

/-- A body is accepted by a condition on the members of objects. -/
def Accepted (condition : List (String × Json) → Prop) (body : List Char) : Prop :=
  body ≠ [] ∧ ∃ doc members, readFirst body = some doc ∧ doc.settle = .obj members ∧
    condition members

/-- The schemas of a fragment's properties, their members in the order of reading. -/
def Fragment.schemas (f : Fragment) : List (String × Json) :=
  f.properties.map fun e => (e.1, arrange e.2)

/-- A fragment tells what the text that it was taken from asks for. -/
structure Tells (text : List Char) (f : Fragment) : Prop where
  read : Fragment.ofText? text = some f
  ascending : Ascending f.properties
  unlinked : ∀ e ∈ f.properties, Unlinked e.2
  compiles : ∀ follow, ∀ e ∈ f.properties, ∃ s, Compiles follow (arrange e.2) s
  declares_iff : ∀ name, Declares text name ↔ name ∈ f.properties.map (·.1)
  validate_iff : ∀ follow entity body, validate entity text body = .ok () ↔
    Accepted (Fulfils follow false f.schemas f.required) body

/-- A body is accepted iff its first value is clean under the compiled schema.

**Proof sketch.** A body is read up to its first value and judged under the compiled schema, and it
is accepted iff the check of that value reports nothing. An empty body and one without a first value
are on neither side. -/
lemma validate_eq_ok_iff {text : List Char} {root : Constraint}
    {condition : List (String × Json) → Prop} (hc : compileText text = .ok ⟨root, []⟩)
    (hroot : ∀ doc, (check unfollowed root doc []).Clean ↔
      ∃ members, doc = .obj members ∧ condition members) (entity : String) (body : List Char) :
    validate entity text body = .ok () ↔ Accepted condition body := by
  by_cases hbody : body = []
  · subst hbody
    exact ⟨nofun, fun h => absurd rfl h.1⟩
  cases hread : readFirst body with
  | none =>
    refine ⟨fun h => ?_, fun ⟨_, doc, _, hdoc, _⟩ => ?_⟩
    · simp [validate, hbody, hc, hread, bind, Except.bind] at h
    · rw [hread] at hdoc
      cases hdoc
  | some doc =>
    rw [validate_eq_judge hbody hc hread, judge_eq_ok_iff, tally_eq_check, hroot]
    constructor
    · rintro ⟨members, hmembers, h⟩
      exact ⟨hbody, doc, members, hread, hmembers, h⟩
    · rintro ⟨-, doc', members, hread', hmembers, h⟩
      cases hread.symm.trans hread'
      exact ⟨members, hmembers, h⟩

/-! ## Plain texts -/

namespace Plain

variable {text : List Char} {members : List (String × Json)} (h : Plain text members)
include h

/-- Which members there are.

**Proof sketch.** The names of a plain text are known, and each of them occurs at most once. -/
lemma mem_iff (m : String × Json) :
    m ∈ members ↔ m = ("type", .str "object") ∨
      (∃ v, lookup? members "properties" = some v ∧ m = ("properties", v)) ∨
      ∃ v, lookup? members "required" = some v ∧ m = ("required", v) := by
  simp only [Json.lookup?_eq_some_iff h.nodup]
  constructor
  · intro hm
    obtain ⟨k, v⟩ := m
    have hk := h.names _ hm
    simp only [List.mem_cons, List.not_mem_nil, or_false] at hk
    obtain rfl | rfl | rfl := hk
    · exact .inl (List.inj_on_of_nodup_map h.nodup hm h.type rfl)
    · exact .inr (.inl ⟨v, hm, rfl⟩)
    · exact .inr (.inr ⟨v, hm, rfl⟩)
  · rintro (rfl | ⟨v, hv, rfl⟩ | ⟨v, hv, rfl⟩)
    · exact h.type
    · exact hv
    · exact hv

/-- The members in ascending order.

**Proof sketch.** Both lists are in strictly ascending order, so it is enough that they have the
same members. Those of the plain text are known by `mem_iff`. -/
lemma settle_eq :
    (Json.obj members).settle = .obj (objectMembers false
      ((lookup? members "properties").map Json.settle)
      ((lookup? members "required").map Json.settle)) := by
  have hkeys : (members.map fun m => (m.1, m.2.settle)).map (·.1) = members.map (·.1) := by
    rw [List.map_map]
    rfl
  rw [Json.settle, Json.settleMembers_eq_map]
  refine congrArg Json.obj (Json.eq_of_mem_iff Json.pairwise_keys_sortLast
    (pairwise_keys_objectMembers _ _ _) fun m => ?_)
  rw [Json.mem_sortLast_iff (hkeys ▸ h.nodup), mem_objectMembers, List.mem_map]
  constructor
  · rintro ⟨m', hm', rfl⟩
    obtain rfl | ⟨v, hv, rfl⟩ | ⟨v, hv, rfl⟩ := (h.mem_iff m').1 hm'
    · exact .inr (.inr (.inr rfl))
    · exact .inr (.inl ⟨v.settle, by rw [hv, Option.map_some], rfl⟩)
    · exact .inr (.inr (.inl ⟨v.settle, by rw [hv, Option.map_some], rfl⟩))
  · rintro (⟨⟨⟩, -⟩ | ⟨w, hw, rfl⟩ | ⟨w, hw, rfl⟩ | rfl)
    · obtain ⟨v, hv, rfl⟩ := Option.map_eq_some_iff.1 hw
      exact ⟨("properties", v), Json.mem_of_lookup?_eq_some hv, rfl⟩
    · obtain ⟨v, hv, rfl⟩ := Option.map_eq_some_iff.1 hw
      exact ⟨("required", v), Json.mem_of_lookup?_eq_some hv, rfl⟩
    · exact ⟨_, h.type, rfl⟩

/-- No edition is declared. -/
lemma editionOf_eq : editionOf (.obj members) = .ok .mixed := by
  have hnone : Json.last? members "$schema" = none := by
    rw [Json.last?, Option.map_eq_none_iff, List.find?_eq_none]
    intro m hm
    have := h.names m (List.mem_reverse.1 hm)
    simp only [List.mem_cons, List.not_mem_nil, or_false] at this
    rcases this with h | h | h <;> simp [h]
  rw [editionOf, hnone]

/-- The values of a member that no other one is taken for. -/
lemma fieldsNamed_eq {name : String}
    (hname : ∀ k ∈ ["type", "properties", "required"], Text.equalFold k name = (k == name)) :
    Json.fieldsNamed members name = (lookup? members name).toList := by
  rw [fieldsNamed_eq_valuesOf fun m hm => hname m.1 (h.names m hm), valuesOf_eq_toList h.nodup]

/-- The declared properties can be moved.

**Proof sketch.** The properties are empty or a member of the text, and what can be moved as a whole
can be moved in parts. -/
lemma portable_declared {declared : List (String × Json)}
    (hdeclared : (lookup? members "properties").getD (.obj []) = .obj declared) :
    Portable (.obj declared) := by
  cases hlookup : lookup? members "properties" with
  | none =>
    rw [hlookup] at hdeclared
    cases hdeclared
    exact h.portable.of_subset_obj (List.nil_subset _)
  | some v =>
    rw [hlookup] at hdeclared
    obtain rfl : v = .obj declared := hdeclared
    exact h.portable.of_mem_obj (Json.mem_of_lookup?_eq_some hlookup)

/-- Which properties a plain text declares.

**Proof sketch.** The text is read as these members only, and its properties stand there at most
once. -/
lemma declares_iff {declared : List (String × Json)}
    (hdeclared : (lookup? members "properties").getD (.obj []) = .obj declared) (name : String) :
    Declares text name ↔ name ∈ declared.map (·.1) := by
  constructor
  · rintro ⟨members', properties, hread, hmem, hname⟩
    cases h.read.symm.trans hread
    rw [(Json.lookup?_eq_some_iff h.nodup).2 hmem] at hdeclared
    cases hdeclared
    exact hname
  · intro hname
    cases hlookup : lookup? members "properties" with
    | none =>
      rw [hlookup] at hdeclared
      cases hdeclared
      cases hname
    | some v =>
      rw [hlookup] at hdeclared
      obtain rfl : v = .obj declared := hdeclared
      exact ⟨members, declared, h.read, Json.mem_of_lookup?_eq_some hlookup, hname⟩

end Plain

/-! ## What a merge takes from a plain text -/

/-- Properties as a merge takes them from an object: of each name the last one, settled, as it comes
out of doubles. -/
def taken (declared : List (String × Json)) : Entries :=
  (Json.sortLast (declared.map fun m => (m.1, m.2.settle))).map fun m => (m.1, m.2.rounded)

section

variable {declared : List (String × Json)}

/-- Their names are those that are declared. -/
lemma mem_keys_taken {name : String} :
    name ∈ (taken declared).map (·.1) ↔ name ∈ declared.map (·.1) := by
  have hkeys : (taken declared).map (·.1) =
      (Json.sortLast (declared.map fun m => (m.1, m.2.settle))).map (·.1) := by
    rw [taken, List.map_map]
    rfl
  rw [hkeys, Json.mem_keys_sortLast, List.map_map]
  rfl

/-- Their names ascend. -/
lemma ascending_taken : Ascending (taken declared) := by
  rw [Ascending, taken, List.map_map]
  exact Json.pairwise_keys_sortLast

/-- They hold no references if the declared ones do not. -/
lemma unlinked_of_mem_taken (h : Portable (.obj declared)) {e : String × Json}
    (he : e ∈ taken declared) : Unlinked e.2 := by
  obtain ⟨m, hm, rfl⟩ := List.mem_map.1 he
  obtain ⟨m', hm', rfl⟩ := List.mem_map.1 (Json.mem_of_mem_sortLast hm)
  exact ((h.of_mem_obj hm').unlinked.reshaped Json.arranges_settle.toReshapes).reshaped
    Json.reshapes_rounded

/-- The properties that are read from a plain text.

**Proof sketch.** Without properties nothing is read. Otherwise every member is decoded by
`Survives.canonical?_eq` and put over what is there, which is sorting. -/
lemma foldlM_readProperties {properties : Option Json}
    (hdeclared : properties.getD (.obj []) = .obj declared) (h : ∀ m ∈ declared, m.2.Survives) :
    properties.toList.foldlM readProperties [] = some (taken declared) := by
  cases properties with
  | none =>
    cases hdeclared
    rfl
  | some v =>
    obtain rfl : v = .obj declared := hdeclared
    rw [taken, ← Json.sortLast_map, List.map_map, Json.sortLast, List.foldl_map,
      Option.toList_some, List.foldlM_cons, readProperties,
      overlay?_eq_foldl (g := fun v => v.settle.rounded) fun m hm => (h m hm).canonical?_eq]
    rfl

end

/-- The required names that are read from a plain text.

**Proof sketch.** Without the member there are no names. Otherwise all items are texts, and they are
read as they stand. -/
lemma foldlM_readRequired {required : Option Json} {names : List String}
    (h : required.getD (.arr []) = .arr (names.map .str)) :
    ∃ r, required.toList.foldlM readRequired ⟨[], []⟩ = some r ∧ r.names = names := by
  cases required with
  | none =>
    obtain rfl : names = [] := by simpa using h.symm
    exact ⟨_, rfl, rfl⟩
  | some v =>
    obtain rfl : v = .arr (names.map .str) := h
    cases names with
    | nil => exact ⟨_, rfl, rfl⟩
    | cons n rest =>
      have hitems : readNames [] ((n :: rest).map .str) = some (n :: rest) := readNames_map_str _ _
      rw [List.map_cons] at hitems
      simp [readRequired, hitems]

/-- Only objects settle to objects. -/
lemma exists_of_settle_eq_obj {v : Json} {entries : List (String × Json)}
    (h : v.settle = .obj entries) :
    ∃ declared, v = .obj declared ∧
      entries = Json.sortLast (declared.map fun m => (m.1, m.2.settle)) := by
  cases v with
  | obj declared =>
    rw [Json.settle, Json.settleMembers_eq_map] at h
    cases h
    exact ⟨declared, rfl, rfl⟩
  | _ => cases h

/-- Only lists of texts settle to lists of texts. -/
lemma eq_of_settle_eq_arr {v : Json} {names : List String}
    (h : v.settle = .arr (names.map .str)) : v = .arr (names.map .str) := by
  cases v with
  | arr items =>
    rw [Json.settle, Json.settleItems_eq_map] at h
    rw [Json.arranges_settle.eq_map_str (Json.arr.inj h)]
  | _ => cases h

section

variable {text : List Char} {members : List (String × Json)}

/-- What a merge takes from a plain text. -/
lemma Plain.ofText?_eq (h : Plain text members) {declared : List (String × Json)}
    {names : List String}
    (hdeclared : (lookup? members "properties").getD (.obj []) = .obj declared)
    (hrequired : (lookup? members "required").getD (.arr []) = .arr (names.map .str)) :
    Fragment.ofText? text = some ⟨taken declared, names⟩ := by
  obtain ⟨r, hr, rfl⟩ := foldlM_readRequired hrequired
  have hsurvives := fun m hm => ((h.portable_declared hdeclared).of_mem_obj (m := m) hm).survives
  rw [Fragment.ofText?, h.read, Option.bind_some, Fragment.read?, h.fieldsNamed_eq (by decide),
    h.fieldsNamed_eq (by decide), foldlM_readProperties hdeclared hsurvives, hr]

/-- **The fragment of a plain text tells what the text asks for.**

**Proof sketch.** The compiled schema of the text gives the settled properties and the names. The
fragment that is read from the text has these properties, decoded, and these names. Decoding does
not change what a schema says, since the text can be moved. -/
theorem Plain.tells (h : Plain text members) : ∃ f, Tells text f := by
  obtain ⟨⟨root, definitions⟩, hc⟩ := h.compiles
  obtain ⟨doc, hread, hdoc⟩ := exists_of_compileText hc
  cases (Json.readFirst_of_readWhole h.read).symm.trans hread
  obtain ⟨entries, names, hentries, hnames, hdefinitions, hall⟩ :=
    exists_of_ofDocument h.portable h.editionOf_eq h.settle_eq hdoc
  obtain rfl : definitions = [] := hdefinitions
  have hproperties : ((lookup? members "properties").getD (.obj [])).settle = .obj entries := by
    rw [← hentries]
    cases lookup? members "properties" <;> rfl
  have hrequired : ((lookup? members "required").getD (.arr [])).settle =
      .arr (names.map .str) := by
    rw [← hnames]
    cases lookup? members "required" <;> rfl
  obtain ⟨declared, hdeclared, rfl⟩ := exists_of_settle_eq_obj hproperties
  refine ⟨⟨taken declared, names⟩, ?_⟩
  have hschemas : Fragment.schemas ⟨taken declared, names⟩ =
      (Json.sortLast (declared.map fun m => (m.1, m.2.settle))).map
        fun m => (m.1, arrange m.2.rounded) := by
    rw [Fragment.schemas, taken, List.map_map]
    rfl
  exact {
    read := h.ofText?_eq hdeclared (eq_of_settle_eq_arr hrequired)
    ascending := ascending_taken
    unlinked := fun e he => unlinked_of_mem_taken (h.portable_declared hdeclared) he
    compiles := fun follow e he => by
      obtain ⟨m, hm, rfl⟩ := List.mem_map.1 he
      exact (hall follow).1 m hm
    declares_iff := fun name => (h.declares_iff hdeclared name).trans mem_keys_taken.symm
    validate_iff := fun follow entity body => by
      rw [hschemas]
      exact validate_eq_ok_iff hc (hall follow).2 entity body }

end

/-! ## The union of fragments -/

/-- Properties with different names are added under every strategy.

**Proof sketch.** A property is refused only if it is declared twice. Since all names are different,
what is added under a name is the one value that is declared for it. -/
lemma exists_addProperties_eq (s : Strategy) {es : List (String × Json)}
    (h : (es.map (·.1)).Nodup) :
    ∃ r, addProperties s [] es = .ok r ∧ ∀ e, e ∈ r ↔ e ∈ es := by
  have hdeclare : ∀ k, s.declareAll? none (valuesOf k es) = some (lookup? es k) := by
    intro k
    rw [valuesOf_eq_toList h]
    cases lookup? es k <;> rfl
  cases hadd : addProperties s [] es with
  | error f =>
    obtain ⟨k, hk⟩ := addProperties_eq_error hadd
    exact absurd ((hdeclare k).symm.trans hk) (by simp)
  | ok r =>
    obtain ⟨hasc, hall⟩ := addProperties_eq_ok hadd
    refine ⟨r, rfl, fun ⟨k, v⟩ => ?_⟩
    have hk : lookup? es k = lookup? r k := Option.some.inj ((hdeclare k).symm.trans (hall k))
    rw [← Json.lookup?_eq_some_iff h, hk, Json.lookup?_eq_some_iff (hasc ascending_nil).nodup]

/-- The fragment of a text, or the one that says nothing. -/
def Fragment.ofText (text : List Char) : Fragment := (Fragment.ofText? text).getD .blank

section

variable {texts : List (List Char)}

/-- The fragments of texts of which each one has a fragment. -/
lemma mapM_ofText? (h : ∀ t ∈ texts, Tells t (.ofText t)) :
    texts.mapM Fragment.ofText? = some (texts.map Fragment.ofText) := by
  induction texts with
  | nil => rfl
  | cons t rest ih =>
    rw [List.forall_mem_cons] at h
    rw [List.mapM_cons, h.1.read, ih h.2]
    rfl

/-- **Fragments that declare different properties are gathered** into all of their properties and
all of their required names.

**Proof sketch.** Properties of different fragments have different names, so all of them are added
by `exists_addProperties_eq`. The names that are required are put into one list. -/
lemma exists_gather?_eq (s : Strategy) (h : ∀ t ∈ texts, Tells t (.ofText t))
    (hdisjoint : texts.Pairwise fun t t' => ∀ name, Declares t name → ¬Declares t' name) :
    ∃ f, gather? s .blank texts = some f ∧
      (∀ e, e ∈ f.properties ↔ ∃ t ∈ texts, e ∈ (Fragment.ofText t).properties) ∧
      ∀ n, n ∈ f.required ↔ ∃ t ∈ texts, n ∈ (Fragment.ofText t).required := by
  have hnodup : ((texts.flatMap fun t => (Fragment.ofText t).properties).map (·.1)).Nodup := by
    rw [List.map_flatMap, List.nodup_flatMap]
    refine ⟨fun t ht => (h t ht).ascending.nodup, hdisjoint.imp_of_mem ?_⟩
    intro t t' ht ht' hne name hname hname'
    exact hne name (((h t ht).declares_iff name).2 hname) (((h t' ht').declares_iff name).2 hname')
  obtain ⟨r, hadd, hr⟩ := exists_addProperties_eq s hnodup
  refine ⟨⟨r, insertNames [] (texts.flatMap fun t => (Fragment.ofText t).required)⟩, ?_, ?_, ?_⟩
  · rw [gather?, foldlM_bind_eq, mapM_ofText? h, Option.bind_some, foldlM_join?_eq_map,
      List.flatMap_map, List.flatMap_map, Fragment.blank, hadd]
    rfl
  · intro e
    rw [hr, List.mem_flatMap]
  · intro n
    rw [mem_insertNames, List.mem_flatMap]
    simp

/-- What all fragments together ask for.

**Proof sketch.** A property, a required name and a declared name of the whole belong to one of the
fragments each. Each of the three conditions is divided accordingly. -/
lemma fulfils_iff {f : Fragment}
    (hproperties : ∀ e, e ∈ f.properties ↔ ∃ t ∈ texts, e ∈ (Fragment.ofText t).properties)
    (hrequired : ∀ n, n ∈ f.required ↔ ∃ t ∈ texts, n ∈ (Fragment.ofText t).required)
    (follow : String → Reading Unit) (strict : Bool) (members : List (String × Json)) :
    Fulfils follow strict f.schemas f.required members ↔
      (∀ t ∈ texts, Fulfils follow false (Fragment.ofText t).schemas (Fragment.ofText t).required
        members) ∧
      (strict = true → ∀ m ∈ members, ∃ t ∈ texts,
        m.1 ∈ (Fragment.ofText t).properties.map (·.1)) := by
  have hschemas : ∀ m, m ∈ f.schemas ↔ ∃ t ∈ texts, m ∈ (Fragment.ofText t).schemas := by
    intro m
    simp only [Fragment.schemas, List.mem_map, hproperties]
    exact ⟨fun ⟨e, ⟨t, ht, he⟩, hm⟩ => ⟨t, ht, e, he, hm⟩,
      fun ⟨t, ht, e, he, hm⟩ => ⟨e, ⟨t, ht, he⟩, hm⟩⟩
  have hkeys : ∀ g : Fragment, g.schemas.map (·.1) = g.properties.map (·.1) := by
    intro g
    rw [Fragment.schemas, List.map_map]
    rfl
  constructor
  · rintro ⟨hp, hr, hk⟩
    refine ⟨fun t ht => ⟨fun m hm => hp m ((hschemas m).2 ⟨t, ht, hm⟩),
      fun n hn => hr n ((hrequired n).2 ⟨t, ht, hn⟩), nofun⟩, fun hstrict m hm => ?_⟩
    obtain ⟨m', hm', hname⟩ := List.mem_map.1 (hk hstrict m hm)
    obtain ⟨t, ht, hmt⟩ := (hschemas m').1 hm'
    exact ⟨t, ht, hkeys _ ▸ List.mem_map.2 ⟨m', hmt, hname⟩⟩
  · rintro ⟨hall, hk⟩
    refine ⟨fun m hm => ?_, fun n hn => ?_, fun hstrict m hm => ?_⟩
    · obtain ⟨t, ht, hmt⟩ := (hschemas m).1 hm
      exact (hall t ht).properties m hmt
    · obtain ⟨t, ht, hnt⟩ := (hrequired n).1 hn
      exact (hall t ht).required n hnt
    · obtain ⟨t, ht, hname⟩ := hk hstrict m hm
      rw [← hkeys] at hname
      obtain ⟨m', hm', hname⟩ := List.mem_map.1 hname
      exact List.mem_map.2 ⟨m', (hschemas m').2 ⟨t, ht, hm'⟩, hname⟩

end

/-! ## The merged schema -/

section

variable {f : Fragment}

/-- The document of a merged schema is an object schema. -/
lemma document_eq (strict : Bool) :
    f.document strict = .obj (objectMembers strict (some (.obj f.properties))
      (if f.required.isEmpty then none else some (.arr (f.required.map .str)))) := by
  rw [Fragment.document, mergedSchema, objectMembers]
  cases f.required.isEmpty <;> rfl

/-- The document of a merged schema is in canonical form.

**Proof sketch.** The members of the document are in ascending order, and each of them is in
canonical form: the properties as they were stored, the rest as plain texts. -/
lemma Fragment.Sound.canonical (h : f.Sound) (strict : Bool) :
    Json.Canonical (f.document strict) := by
  rw [document_eq]
  refine .obj (pairwise_keys_objectMembers _ _ _) fun m hm => ?_
  obtain ⟨-, rfl⟩ | ⟨v, hv, rfl⟩ | ⟨v, hv, rfl⟩ | rfl := mem_objectMembers.1 hm
  · exact .bool false
  · cases hv
    exact .obj h.properties fun e he => (h.storable e he).canonical
  · split at hv
    · cases hv
    · cases hv
      refine .arr fun w hw => ?_
      obtain ⟨n, -, rfl⟩ := List.mem_map.1 hw
      exact .str n
  · exact .str _

/-- The document of a merged schema holds no references if the schemas of its properties hold
none.

**Proof sketch.** None of the members is named as a reference, and the properties hold none by
assumption. A property with such a name would have to be a text. -/
lemma unlinked_document (hunlinked : ∀ e ∈ f.properties, Unlinked e.2)
    (htexts : ∀ e ∈ f.properties, ∀ s, e.2 ≠ .str s) (strict : Bool) :
    Unlinked (f.document strict) := by
  rw [document_eq]
  refine .obj (fun m hm => ?_) fun s hs => ?_
  · obtain ⟨-, rfl⟩ | ⟨v, hv, rfl⟩ | ⟨v, hv, rfl⟩ | rfl := mem_objectMembers.1 hm
    · exact .bool false
    · cases hv
      exact .obj hunlinked fun s hs => htexts _ hs s rfl
    · split at hv
      · cases hv
      · cases hv
        refine .arr fun w hw => ?_
        obtain ⟨n, -, rfl⟩ := List.mem_map.1 hw
        exact .str n
    · exact .str _
  · simpa using mem_objectMembers.1 hs

/-- No edition is declared. -/
lemma editionOf_document (strict : Bool) : editionOf (f.document strict) = .ok .mixed := by
  rw [document_eq]
  cases strict <;> cases f.required.isEmpty <;> rfl

/-- A text is no schema. -/
lemma not_compiles_str (follow : String → Reading Unit) (s : String) (c : Constraint) :
    ¬Compiles follow (arrange (.str s)) c := by
  intro h
  have := h ⟨[], []⟩
  simp only [arrange, compile] at this
  cases this

/-- **A merged schema asks for what was gathered.**

**Proof sketch.** The document is in canonical form, so it is compiled to the rules for its
properties and its required names. Then `validate_eq_ok_iff` applies. -/
theorem exists_validate_document_iff (h : f.Sound) (hunlinked : ∀ e ∈ f.properties, Unlinked e.2)
    (hcompiles : ∀ follow, ∀ e ∈ f.properties, ∃ s, Compiles follow (arrange e.2) s)
    (strict : Bool) :
    ∃ follow, ∀ entity body,
      validate entity (f.document strict).indented.toList body = .ok () ↔
        Accepted (Fulfils follow strict f.schemas f.required) body := by
  have htexts : ∀ e ∈ f.properties, ∀ s, e.2 ≠ .str s := by
    intro e he s hs
    obtain ⟨c, hc⟩ := hcompiles (fun _ => throw .unrepresentable) e he
    rw [hs] at hc
    exact not_compiles_str _ s c hc
  have hsettle : (f.document strict).settle = .obj (objectMembers strict
      (some (.obj f.properties))
      (if f.required.isEmpty then none else some (.arr (f.required.map .str)))) := by
    rw [(h.canonical strict).settle_eq, document_eq]
  obtain ⟨follow, root, hroot, hclean⟩ := exists_ofDocument_eq_ok
    (unlinked_document hunlinked htexts strict) (editionOf_document strict) hsettle
    h.required.nodup hcompiles
  have hread := Json.readFirst_indented (h.fits strict).wellFormed (h.fits strict).depth_le
  exact ⟨follow, validate_eq_ok_iff (compileText_of_readFirst hread hroot) hclean⟩

end

/-! ## Merging is conjunction -/

/-- Settling keeps the names of members. -/
lemma mem_keys_of_settle_eq_obj {doc : Json} {members : List (String × Json)}
    (h : doc.settle = .obj members) :
    ∃ given, doc = .obj given ∧ ∀ name, name ∈ members.map (·.1) ↔ name ∈ given.map (·.1) := by
  obtain ⟨given, rfl, rfl⟩ := exists_of_settle_eq_obj h
  refine ⟨given, rfl, fun name => ?_⟩
  rw [Json.mem_keys_sortLast, List.map_map]
  rfl

/-- Texts that can be gathered are merged.

**Proof sketch.** A merge succeeds iff the fragments can be gathered, by `mergedText_toOption`. -/
lemma mergedText_eq_ok {s : Strategy} {strict : Bool} {texts : List (List Char)} {f : Fragment}
    (hne : texts ≠ []) (h : gather? s .blank texts = some f) :
    mergedText s strict texts = .ok (f.document strict).indented.toList := by
  have hmerged := mergedText_toOption s strict hne
  rw [h] at hmerged
  cases hresult : mergedText s strict texts with
  | error e =>
    rw [hresult] at hmerged
    cases hmerged
  | ok merged =>
    rw [hresult] at hmerged
    exact congrArg Except.ok (Option.some.inj hmerged)

/-- A body has what all fragments together ask for iff it has what each of them asks for.

**Proof sketch.** The body is read once, and each fragment asks about the same members, so this
comes down to `fulfils_iff`. With a strict merge the members of the body are those of its settled
form, up to order. -/
lemma accepted_iff {texts : List (List Char)} {f : Fragment} (hne : texts ≠ [])
    (hproperties : ∀ e, e ∈ f.properties ↔ ∃ t ∈ texts, e ∈ (Fragment.ofText t).properties)
    (hrequired : ∀ n, n ∈ f.required ↔ ∃ t ∈ texts, n ∈ (Fragment.ofText t).required)
    (follow : String → Reading Unit) (strict : Bool) (body : List Char) :
    Accepted (Fulfils follow strict f.schemas f.required) body ↔
      (∀ t ∈ texts, Accepted (Fulfils follow false (Fragment.ofText t).schemas
        (Fragment.ofText t).required) body) ∧
      (strict = true → ∀ members, readFirst body = some (.obj members) → ∀ m ∈ members,
        ∃ t ∈ texts, m.1 ∈ (Fragment.ofText t).properties.map (·.1)) := by
  have hfulfils := fulfils_iff hproperties hrequired follow strict
  constructor
  · rintro ⟨hbody, doc, members, hread, hmembers, h⟩
    obtain ⟨hall, hknown⟩ := (hfulfils members).1 h
    refine ⟨fun t ht => ⟨hbody, doc, members, hread, hmembers, hall t ht⟩,
      fun hstrict given hgiven m hm => ?_⟩
    obtain ⟨given', rfl, hkeys⟩ := mem_keys_of_settle_eq_obj hmembers
    cases hread.symm.trans hgiven
    obtain ⟨m', hm', hname⟩ := List.mem_map.1 ((hkeys m.1).2 (List.mem_map_of_mem hm))
    exact hname ▸ hknown hstrict m' hm'
  · rintro ⟨hall, hknown⟩
    -- the body is read once; each text is asked about the same members
    obtain ⟨first, hfirst⟩ := List.exists_mem_of_ne_nil texts hne
    obtain ⟨hbody, doc, members, hread, hmembers, -⟩ := hall first hfirst
    refine ⟨hbody, doc, members, hread, hmembers,
      (hfulfils members).2 ⟨fun t ht => ?_, fun hstrict m hm => ?_⟩⟩
    · obtain ⟨-, doc', members', hread', hmembers', h⟩ := hall t ht
      cases hread.symm.trans hread'
      cases hmembers.symm.trans hmembers'
      exact h
    · obtain ⟨given, rfl, hkeys⟩ := mem_keys_of_settle_eq_obj hmembers
      obtain ⟨m', hm', hname⟩ := List.mem_map.1 ((hkeys m.1).1 (List.mem_map_of_mem hm))
      exact hname ▸ hknown hstrict given hread m' hm'

/-- **Merging is conjunction.** Plain texts, at least one, that declare different properties are
merged under every strategy. A body is accepted under the merged schema iff it is accepted under
each of the texts and, if the merge is strict, each of its members is declared by one of them.

**Proof sketch.** Each text asks for what its fragment tells. The fragments are gathered into one
with all their properties and required names, which tells what the merged schema asks for. The
schemas of properties have passed through doubles on the way, which changes nothing. -/
theorem validate_mergedText_iff (s : Strategy) (strict : Bool) {texts : List (List Char)}
    (hne : texts ≠ []) (hplain : ∀ t ∈ texts, ∃ members, Plain t members)
    (hdisjoint : texts.Pairwise fun t t' => ∀ name, Declares t name → ¬Declares t' name) :
    ∃ merged, mergedText s strict texts = .ok merged ∧ ∀ entity body,
      validate entity merged body = .ok () ↔
        (∀ t ∈ texts, validate entity t body = .ok ()) ∧
          (strict = true → ∀ members, readFirst body = some (.obj members) →
            ∀ m ∈ members, ∃ t ∈ texts, Declares t m.1) := by
  have htells : ∀ t ∈ texts, Tells t (.ofText t) := by
    intro t ht
    obtain ⟨members, hmembers⟩ := hplain t ht
    obtain ⟨f, hf⟩ := hmembers.tells
    rwa [Fragment.ofText, hf.read]
  obtain ⟨f, hgather, hproperties, hrequired⟩ := exists_gather?_eq s htells hdisjoint
  have hunlinked : ∀ e ∈ f.properties, Unlinked e.2 := by
    intro e he
    obtain ⟨t, ht, het⟩ := (hproperties e).1 he
    exact (htells t ht).unlinked e het
  have hcompiles : ∀ follow, ∀ e ∈ f.properties, ∃ s, Compiles follow (arrange e.2) s := by
    intro follow e he
    obtain ⟨t, ht, het⟩ := (hproperties e).1 he
    exact (htells t ht).compiles follow e het
  obtain ⟨follow, hvalidate⟩ :=
    exists_validate_document_iff (sound_blank.gather? hgather) hunlinked hcompiles strict
  refine ⟨_, mergedText_eq_ok hne hgather, fun entity body => ?_⟩
  rw [hvalidate, accepted_iff hne hproperties hrequired]
  refine and_congr (forall₂_congr fun t ht => ?_) (forall_congr' fun _ => ?_)
  · exact ((htells t ht).validate_iff follow entity body).symm
  · refine forall₂_congr fun members _ => forall₂_congr fun m _ => exists_congr fun t => ?_
    exact and_congr_right fun ht => ((htells t ht).declares_iff m.1).symm

/-! ## A name and an age -/

/-- A document that is written has a plain text if it has the form of one.

**Proof sketch.** The text is read as the members by `readWhole_compact`, and compiled as the
document is. -/
lemma plain_compact {members : List (String × Json)} {c : Compiled}
    (hwritten : (Json.obj members).WellFormed) (hdepth : (Json.obj members).depth ≤ Json.maxDepth)
    (htype : ("type", .str "object") ∈ members)
    (hnames : ∀ m ∈ members, m.1 ∈ ["type", "properties", "required"])
    (hnodup : (members.map (·.1)).Nodup) (hportable : Portable (.obj members))
    (hc : Compiled.ofDocument (.obj members) = .ok c) :
    Plain (Json.obj members).compact.toList members where
  read := Json.readWhole_compact hwritten hdepth
  type := htype
  names := hnames
  nodup := hnodup
  portable := hportable
  compiles := ⟨c, compileText_of_readFirst (Json.readFirst_compact hwritten hdepth) hc⟩

/-- A fragment that declares a name and requires it. -/
def named : List (String × Json) :=
  [("properties", .obj [("name", .obj [("type", .str "string")])]),
    ("required", .arr [.str "name"]), ("type", .str "object")]

/-- A fragment that declares an age, which is not negative. -/
def aged : List (String × Json) :=
  [("type", .str "object"), ("properties", .obj [("age", .obj [("minimum", .int 0)])])]

/-- The text of the fragment with a name is plain.

**Proof sketch.** The schema is compiled by evaluation. It has no numbers and no references. -/
lemma plain_named : Plain (Json.obj named).compact.toList named := by
  have hc : Compiled.ofDocument (.obj named) = .ok ⟨.rules [.object]
      [.members [("name", .rules [.string] [])] [] .anything, .requiredNames ["name"]], []⟩ := by
    rfl
  have hsurvives : (Json.obj named).Survives :=
    .obj (List.forall_mem_cons.2 ⟨.obj (List.forall_mem_singleton.2 (.obj
      (List.forall_mem_singleton.2 (.str _)))), List.forall_mem_cons.2
      ⟨.arr (List.forall_mem_singleton.2 (.str _)), List.forall_mem_singleton.2 (.str _)⟩⟩)
  have hunlinked : Unlinked (.obj named) :=
    .obj (List.forall_mem_cons.2 ⟨.obj (List.forall_mem_singleton.2 (.obj
      (List.forall_mem_singleton.2 (.str _)) (by simp))) (by simp), List.forall_mem_cons.2
      ⟨.arr (List.forall_mem_singleton.2 (.str _)), List.forall_mem_singleton.2 (.str _)⟩⟩)
      (by simp [named])
  exact plain_compact (by simp [named, Json.WellFormed, Json.WellFormed.wellFormedItems,
    Json.WellFormed.wellFormedMembers]) (by decide) (by simp [named]) (by simp [named])
    (by decide) ⟨hsurvives, hunlinked⟩ hc

/-- The text of the fragment with an age is plain.

**Proof sketch.** The schema is compiled by evaluation. Its only number is a zero, which survives. -/
lemma plain_aged : Plain (Json.obj aged).compact.toList aged := by
  have hc : Compiled.ofDocument (.obj aged) = .ok ⟨.rules [.object]
      [.members [("age", .rules [] [.bound .minimum ⟨0, 1⟩])] [] .anything], []⟩ := by
    rfl
  have hzero : (Json.Numeral.ofInt 0).Survives := ⟨by decide, rfl⟩
  have hsurvives : (Json.obj aged).Survives :=
    .obj (List.forall_mem_cons.2 ⟨.str _, List.forall_mem_singleton.2 (.obj
      (List.forall_mem_singleton.2 (.obj (List.forall_mem_singleton.2 (.num hzero)))))⟩)
  have hunlinked : Unlinked (.obj aged) :=
    .obj (List.forall_mem_cons.2 ⟨.str _, List.forall_mem_singleton.2 (.obj
      (List.forall_mem_singleton.2 (.obj (List.forall_mem_singleton.2 (.num _)) (by simp)))
      (by simp))⟩) (by simp [aged])
  exact plain_compact (by simp [aged, Json.WellFormed, Json.int, Json.WellFormed.wellFormedMembers,
    Json.Numeral.wellFormed_ofInt]) (by decide) (by simp [aged]) (by simp [aged]) (by decide)
    ⟨hsurvives, hunlinked⟩ hc

/-- The texts of both fragments. -/
def nameAndAge : List (List Char) :=
  [(Json.obj named).compact.toList, (Json.obj aged).compact.toList]

/-- A name and an age, merged strictly.

**Proof sketch.** The two texts are plain, and each declares one property with a name of its own. -/
theorem validate_mergedText_iff_nameAndAge :
    nameAndAge ≠ [] ∧ (∀ t ∈ nameAndAge, ∃ members, Plain t members) ∧
      nameAndAge.Pairwise (fun t t' => ∀ name, Declares t name → ¬Declares t' name) ∧
      ∃ merged, mergedText .refuse true nameAndAge = .ok merged ∧ ∀ entity body,
        validate entity merged body = .ok () ↔
          (∀ t ∈ nameAndAge, validate entity t body = .ok ()) ∧
            (true = true → ∀ members, readFirst body = some (.obj members) →
              ∀ m ∈ members, ∃ t ∈ nameAndAge, Declares t m.1) := by
  have hne : nameAndAge ≠ [] := List.cons_ne_nil _ _
  have hplain : ∀ t ∈ nameAndAge, ∃ members, Plain t members :=
    List.forall_mem_cons.2 ⟨⟨named, plain_named⟩, List.forall_mem_singleton.2 ⟨aged, plain_aged⟩⟩
  have hdisjoint : nameAndAge.Pairwise
      (fun t t' => ∀ name, Declares t name → ¬Declares t' name) := by
    refine List.pairwise_pair.2 fun name hnamed haged => ?_
    rw [plain_named.declares_iff rfl] at hnamed
    rw [plain_aged.declares_iff rfl] at haged
    obtain rfl : name = "name" := by simpa using hnamed
    simp at haged
  exact ⟨hne, hplain, hdisjoint, validate_mergedText_iff .refuse true hne hplain hdisjoint⟩

end SchemaKit.Merge
