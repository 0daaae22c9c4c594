import SchemaKit.Proofs.Validation.Rereading

/-!
# Object schemas

An object schema says which members an object has to have, and what those with certain names have to
be like. It may also say that there are no others. This module reads off such a schema what it asks
for, if it holds no references.

## Main definitions

* `SchemaKit.Validation.objectMembers` — the members of an object schema, some of them optional.
* `SchemaKit.Validation.Meets` — a value is admitted by a schema without references.
* `SchemaKit.Validation.Fulfils` — an object has what an object schema asks for.

## Main results

* `SchemaKit.Validation.exists_of_ofDocument` — an object schema that compiles admits the objects
  that have what it asks for.
* `SchemaKit.Validation.exists_ofDocument_eq_ok` — an object schema compiles if the schemas of its
  properties do.
-/

namespace SchemaKit.Validation

open Json

/-! ## Documents without references -/

/-- However many references may be followed, compiling goes over the structure of the schema. -/
lemma exists_compileWithin_eq (e : Edition) (d : Directory) (n : Nat) :
    ∃ follow, compileWithin e d n = compile e follow .notSchema := by
  cases n with
  | zero => exact ⟨_, by funext v; rfl⟩
  | succ n => exact ⟨_, by funext v; rfl⟩

/-- A document without references is compiled as it stands, once its members are in order.

**Proof sketch.** Without references nothing is made absolute, and nothing is located: that is
`locate_of_unlinked`. What is left is the compilation of the document. -/
lemma exists_ofDocument_eq {doc : Json} (hdoc : Unlinked doc) {e : Edition}
    (he : editionOf doc = .ok e) :
    ∃ follow, Compiled.ofDocument doc =
      (compile e follow .notSchema (arrange doc.settle) ⟨[], []⟩).map fun r =>
        ⟨r.1, r.2.finished⟩ := by
  have hlocated := locate_of_unlinked .empty _
    ((hdoc.reshaped arranges_settle.toReshapes).reshaped arranges_arrange.toReshapes) ⟨[], []⟩
  obtain ⟨follow, hfollow⟩ := exists_compileWithin_eq e
    (Directory.ofDocument (arrange doc.settle)).2 (countReferences (arrange doc.settle))
  refine ⟨follow, ?_⟩
  rw [← hfollow, Compiled.ofDocument, he]
  simp only [bind, Except.bind, Directory.ofDocument, hlocated]
  unfold StateT.run
  cases compileWithin e _ _ _ _ <;> rfl

/-- Without definitions there is nothing to be followed. -/
def unfollowed : Follow := fun _ _ _ => .lost

/-- Without definitions a document is checked by the structure of the schema alone. -/
lemma tally_eq_check (root : Constraint) (doc : Json) :
    Compiled.tally ⟨root, []⟩ doc = check unfollowed root doc [] := by
  unfold Compiled.tally
  cases Compiled.budget ⟨root, []⟩ doc <;> rfl

/-! ## Members -/

/-- The members of an object schema, in ascending order. -/
def objectMembers (closed : Bool) (properties required : Option Json) : List (String × Json) :=
  (if closed then [("additionalProperties", .bool false)] else []) ++
    (properties.map (Prod.mk "properties")).toList ++ (required.map (Prod.mk "required")).toList ++
    [("type", .str "object")]

/-- Their names ascend. -/
lemma pairwise_keys_objectMembers (closed : Bool) (properties required : Option Json) :
    ((objectMembers closed properties required).map (·.1)).Pairwise (· < ·) := by
  have hall : ["additionalProperties", "properties", "required", "type"].Pairwise (· < ·) := by
    decide
  refine hall.sublist ?_
  cases closed <;> cases properties <;> cases required <;> simp [objectMembers]

/-- Which members an object schema has. -/
lemma mem_objectMembers {closed : Bool} {properties required : Option Json} {m : String × Json} :
    m ∈ objectMembers closed properties required ↔
      (closed = true ∧ m = ("additionalProperties", .bool false)) ∨
        (∃ v, properties = some v ∧ m = ("properties", v)) ∨
        (∃ v, required = some v ∧ m = ("required", v)) ∨ m = ("type", .str "object") := by
  cases closed <;> cases properties <;> cases required <;> simp [objectMembers]

/-- The members of an object schema, in the order of reading. -/
def rankedMembers (closed : Bool) (properties required : Option Json) : List (String × Json) :=
  [("type", .str "object")] ++ (properties.map (Prod.mk "properties")).toList ++
    (if closed then [("additionalProperties", .bool false)] else []) ++
    (required.map (Prod.mk "required")).toList

/-- The kind is read first, and the required names are read last. -/
lemma arrange_objectMembers (closed : Bool) (properties required : Option Json) :
    arrange (.obj (objectMembers closed properties required)) =
      .obj (rankedMembers closed (properties.map arrange) (required.map arrange)) := by
  cases closed <;> cases properties <;> cases required <;> rfl

/-! ## Compiling -/

/-- The declared properties, if there are any. -/
def propertiesOf (e : Edition) (follow : String → Reading Unit) :
    Option Json → Reading (List (String × Constraint))
  | none => pure []
  | some v => do
    refuseInexact v
    compileProperties e follow v

/-- The required names, if a list of them is given. -/
def requiredOf : Option Json → Reading (Option (List String))
  | none => pure none
  | some v => do
    refuseInexact v
    match v with
    | .arr items => return some (← readNames [] items)
    | _ => throw (.mustBeAn .required "array")

/-- What the keywords of an object schema say. -/
def objectBuild (closed : Bool) (properties : List (String × Constraint))
    (required : Option (List String)) : Build where
  kinds := [.object]
  properties := properties
  restMembers := if closed then .nothing else .anything
  rules := (required.map Rule.requiredNames).toList

section

variable {e : Edition} {follow : String → Reading Unit}

/-- Keywords are read in two steps. -/
lemma compileMembers_append (xs ys : List (String × Json)) (b : Build) :
    compileMembers e follow (xs ++ ys) b =
      compileMembers e follow xs b >>= compileMembers e follow ys := by
  induction xs generalizing b with
  | nil => rw [List.nil_append, compileMembers, pure_bind]
  | cons m rest ih =>
    rw [List.cons_append, compileMembers_cons, compileMembers_cons e follow m rest, bind_assoc]
    exact congrArg _ (funext ih)

/-- The kind is that of objects. -/
lemma compileMembers_type :
    compileMembers e follow [("type", .str "object")] {} = pure { kinds := [.object] } := by
  rfl

/-- Then the declared properties are read. -/
lemma compileMembers_properties (properties : Option Json) :
    compileMembers e follow (properties.map (Prod.mk "properties")).toList { kinds := [.object] } =
      propertiesOf e follow properties >>= fun ps =>
        pure { kinds := [.object], properties := ps } := by
  have hkey : Keyword.ofName? "properties" = some .properties := by rfl
  cases properties with
  | none => rfl
  | some v =>
    simp only [Option.map_some, Option.toList_some, compileMembers, hkey, propertiesOf,
      Keyword.asksKind, if_true, Bool.false_eq_true, if_false, bind_assoc, bind_pure]

/-- Then it is read whether there may be others. -/
lemma compileMembers_closed (closed : Bool) (ps : List (String × Constraint)) :
    compileMembers e follow (if closed then [("additionalProperties", .bool false)] else [])
        { kinds := [.object], properties := ps } = pure (objectBuild closed ps none) := by
  cases closed <;> rfl

/-- The required names are read at last.

**Proof sketch.** By whether the member is there. The names are read after the kind of the value has
been asked for. -/
lemma compileMembers_required (closed : Bool) (ps : List (String × Constraint))
    (required : Option Json) :
    compileMembers e follow (required.map (Prod.mk "required")).toList
        (objectBuild closed ps none) =
      requiredOf required >>= fun names => pure (objectBuild closed ps names) := by
  have hkey : Keyword.ofName? "required" = some .required := by rfl
  have hstop : (objectBuild closed ps none).stopped = false := rfl
  cases required with
  | none => rfl
  | some v =>
    simp only [Option.map_some, Option.toList_some, compileMembers, hkey, requiredOf, hstop,
      Keyword.asksKind, if_true, Bool.false_eq_true, if_false, bind_assoc, bind_pure]
    congr 1
    funext u
    cases v with
    | arr items =>
      dsimp only [readPlain]
      cases readNames [] items <;> rfl
    | _ => rfl

/-- **An object schema is compiled to what its properties and its required names say.** -/
lemma compile_rankedMembers (closed : Bool) (properties required : Option Json)
    (otherwise : Defect) :
    compile e follow otherwise (.obj (rankedMembers closed properties required)) = do
      let ps ← propertiesOf e follow properties
      let names ← requiredOf required
      return (objectBuild closed ps names).finish := by
  simp only [compile, rankedMembers, compileMembers_append, compileMembers_type, pure_bind,
    compileMembers_properties, bind_assoc, compileMembers_closed, compileMembers_required]

end

/-! ## Checking -/

section

variable (follow : Follow)

/-- Only objects are of the kind of objects. -/
lemma admits_object_iff (doc : Json) :
    (∃ k ∈ [Kind.object], k.admits (Kind.of doc) = true) ↔ ∃ members, doc = .obj members := by
  cases doc with
  | num n =>
    simp only [Kind.of]
    split <;> simp [Kind.admits]
  | _ => simp [Kind.of, Kind.admits]

/-- An object is clean under declared properties and any others iff each declared property is
clean. -/
lemma clean_members_anything (properties : List (String × Constraint))
    (members : List (String × Json)) (path : List String) :
    (checkRule follow (.members properties [] .anything) (.obj members) path).Clean ↔
      ∀ p ∈ properties, ∀ v, lookup? members p.1 = some v →
        (check follow p.2 v (p.1 :: path)).Clean := by
  simp [checkRule, clean_checkProperties, checkPatterns, checkRest]

/-- What an object schema says about members.

**Proof sketch.** A rule about members is made unless there is nothing to say. If others are not
admitted it is `clean_members_nothing`, otherwise `clean_members_anything`. -/
lemma clean_memberRules (closed : Bool) (ps : List (String × Constraint))
    (required : Option (List String)) (members : List (String × Json)) (path : List String) :
    (∀ r ∈ (objectBuild closed ps required).memberRules,
        (checkRule follow r (.obj members) path).Clean) ↔
      (∀ p ∈ ps, ∀ v, lookup? members p.1 = some v → (check follow p.2 v (p.1 :: path)).Clean) ∧
        (closed = true → ∀ m ∈ members, m.1 ∈ ps.map (·.1)) := by
  cases closed with
  | true =>
    have hrules : (objectBuild true ps required).memberRules = [.members ps [] .nothing] := by
      cases ps <;> rfl
    simp [hrules, clean_members_nothing]
  | false =>
    cases ps with
    | nil => simp [objectBuild, Build.memberRules]
    | cons p ps =>
      have hrules : (objectBuild false (p :: ps) required).memberRules =
          [.members (p :: ps) [] .anything] := rfl
      rw [hrules, List.forall_mem_singleton, clean_members_anything]
      simp

/-- **A document is clean under an object schema** iff it is an object whose declared members are
clean, which has the required ones, and no others if it must not.

**Proof sketch.** The rules that are made are the one about members and the one about required
names. By `clean_rules` the document is clean under both, and it is an object. -/
lemma clean_finish_objectBuild (closed : Bool) (ps : List (String × Constraint))
    (required : Option (List String)) (doc : Json) (path : List String) :
    (check follow (objectBuild closed ps required).finish doc path).Clean ↔
      ∃ members, doc = .obj members ∧
        (∀ p ∈ ps, ∀ v, lookup? members p.1 = some v →
          (check follow p.2 v (p.1 :: path)).Clean) ∧
        (∀ name ∈ required.getD [], (lookup? members name).isSome = true) ∧
        (closed = true → ∀ m ∈ members, m.1 ∈ ps.map (·.1)) := by
  have hfinish : (objectBuild closed ps required).finish = .rules [.object]
      ((objectBuild closed ps required).memberRules ++
        (required.map Rule.requiredNames).toList) := by
    cases required <;> simp [objectBuild, Build.finish, Build.memberRules, Build.itemRules,
      Build.boundRules, Build.conditionRules]
  rw [hfinish, clean_rules, admits_object_iff, checkRules_eq_map]
  constructor
  · rintro ⟨hkind | ⟨members, rfl⟩, hrules⟩
    · cases hkind
    · rw [List.map_append, List.forall_mem_append, List.forall_mem_map] at hrules
      obtain ⟨hproperties, hclosed⟩ := (clean_memberRules follow _ _ _ _ _).1 hrules.1
      refine ⟨members, rfl, hproperties, ?_, hclosed⟩
      cases required with
      | none => simp
      | some names => exact (clean_requiredNames follow names members path).1 (hrules.2 _ (by simp))
  · rintro ⟨members, rfl, hproperties, hnames, hclosed⟩
    refine ⟨.inr ⟨members, rfl⟩, ?_⟩
    rw [List.map_append, List.forall_mem_append, List.forall_mem_map]
    refine ⟨(clean_memberRules follow _ _ _ _ _).2 ⟨hproperties, hclosed⟩, ?_⟩
    cases required with
    | none => simp
    | some names => simpa using (clean_requiredNames follow names members path).2 hnames

end

/-! ## Schemas that compile anywhere -/

/-- A schema, its members in the order of reading, is compiled without a look at the references met
before. -/
def Compiles (follow : String → Reading Unit) (schema : Json) (c : Constraint) : Prop :=
  ∀ pool, compile .mixed follow .notSchema schema pool = .ok (c, pool)

/-- A value is admitted by a schema without references. -/
def Meets (follow : String → Reading Unit) (schema doc : Json) (path : List String) : Prop :=
  ∃ c, Compiles follow schema c ∧ (check unfollowed c doc path).Clean

/-- Admitted is what the compiled schema admits. -/
lemma Compiles.meets_iff {follow : String → Reading Unit} {schema : Json} {c : Constraint}
    (h : Compiles follow schema c) (doc : Json) (path : List String) :
    Meets follow schema doc path ↔ (check unfollowed c doc path).Clean := by
  refine ⟨fun ⟨c', hc', hclean⟩ => ?_, fun hclean => ⟨c, h, hclean⟩⟩
  cases (h ⟨[], []⟩).symm.trans (hc' ⟨[], []⟩)
  exact hclean

/-- An object has what an object schema asks for: its declared members are admitted, the required
ones are there, and there are no others if there must not be. -/
structure Fulfils (follow : String → Reading Unit) (closed : Bool) (schemas : List (String × Json))
    (required : List String) (members : List (String × Json)) : Prop where
  properties : ∀ m ∈ schemas, ∀ v, lookup? members m.1 = some v → Meets follow m.2 v [m.1]
  required : ∀ name ∈ required, (lookup? members name).isSome = true
  known : closed = true → ∀ m ∈ members, m.1 ∈ schemas.map (·.1)

section

variable {follow : String → Reading Unit} {entries : List (String × Json)}
  {ps : List (String × Constraint)} {pool : Pool}

/-- Schemas that are compiled to constraints which agree with the given ones, name by name. -/
def CompileAlike (follow : String → Reading Unit) (m : String × Json) (p : String × Constraint) :
    Prop :=
  m.1 = p.1 ∧ ∃ c, Compiles follow m.2 c ∧ p.2.Alike c

/-- If schemas are compiled where they stand, then they are compiled anywhere after they have passed
through doubles.

**Proof sketch.** Induction on the entries. Each value can be moved, so by `rereads` it is read the
same after rounding, and the pool stays as it is. -/
lemma compileAlike_of_compileEntries (hentries : Portable (.obj entries)) {pool' : Pool}
    (h : compileEntries .mixed follow .notSchema entries pool = .ok (ps, pool'))
    (follow' : String → Reading Unit) :
    pool' = pool ∧
      List.Forall₂ (CompileAlike follow') (entries.map fun m => (m.1, m.2.rounded)) ps := by
  induction entries generalizing ps pool with
  | nil =>
    rw [compileEntries] at h
    cases h
    exact ⟨rfl, .nil⟩
  | cons m rest ih =>
    obtain ⟨name, v⟩ := m
    rw [compileEntries] at h
    obtain ⟨⟨s, pool₁⟩, hs, h⟩ := bind_eq_ok_iff.1 h
    obtain ⟨⟨ps₁, pool₂⟩, hps, h⟩ := bind_eq_ok_iff.1 h
    cases h
    have hmirrors : Mirrors Constraint.Alike (compile .mixed follow .notSchema v)
        (compile .mixed follow' .notSchema v.rounded) :=
      (rereads (hentries.of_mem_obj List.mem_cons_self)).schema .notSchema
    obtain ⟨rfl, s', halike, hs'⟩ := hmirrors _ _ hs
    obtain ⟨rfl, hrest⟩ := ih (hentries.of_subset_obj (by simp)) hps
    exact ⟨rfl, .cons ⟨rfl, s', hs', halike⟩ hrest⟩

/-- Schemas that are compiled one by one are compiled together.

**Proof sketch.** Induction on the entries: the schema of the first one is compiled in front of the
others. -/
lemma exists_compileEntries_eq (h : ∀ m ∈ entries, ∃ c, Compiles follow m.2 c) :
    ∃ ps, List.Forall₂ (CompileAlike follow) entries ps ∧
      ∀ pool, compileEntries .mixed follow .notSchema entries pool = .ok (ps, pool) := by
  induction entries with
  | nil => exact ⟨[], .nil, fun pool => by rw [compileEntries]; rfl⟩
  | cons m rest ih =>
    obtain ⟨name, v⟩ := m
    obtain ⟨⟨c, hc⟩, hrest⟩ := List.forall_mem_cons.1 h
    obtain ⟨ps, hps, hcompile⟩ := ih hrest
    refine ⟨(name, c) :: ps, .cons ⟨rfl, c, hc, .refl c⟩ hps, fun pool => ?_⟩
    rw [compileEntries]
    change (compile _ _ _ _ pool).bind _ = _
    rw [hc pool]
    change (compileEntries _ _ _ _ pool).bind _ = _
    rw [hcompile pool]
    rfl

/-- What holds of each of two lists that are related one by one. -/
lemma forall_mem_iff_of_forall₂ {α β : Type} {R : α → β → Prop} {P : α → Prop} {Q : β → Prop}
    {xs : List α} {ys : List β} (h : List.Forall₂ R xs ys) (hR : ∀ x y, R x y → (P x ↔ Q y)) :
    (∀ x ∈ xs, P x) ↔ ∀ y ∈ ys, Q y := by
  induction h with
  | nil => simp
  | cons hxy _ ih => rw [List.forall_mem_cons, List.forall_mem_cons, hR _ _ hxy, ih]

/-- **An object schema admits the objects that have what it asks for.**

**Proof sketch.** The names of the entries and of the compiled properties are the same, and an entry
is met iff its compiled schema is clean. -/
lemma clean_iff_fulfils (h : List.Forall₂ (CompileAlike follow) entries ps) (closed : Bool)
    (required : Option (List String)) (doc : Json) :
    (check unfollowed (objectBuild closed ps required).finish doc []).Clean ↔
      ∃ members, doc = .obj members ∧
        Fulfils follow closed entries (required.getD []) members := by
  rw [clean_finish_objectBuild]
  refine exists_congr fun members => and_congr_right fun _ => ?_
  have hnames : entries.map (·.1) = ps.map (·.1) := by
    induction h with
    | nil => rfl
    | cons hmp _ ih => rw [List.map_cons, List.map_cons, hmp.1, ih]
  have hproperties : (∀ m ∈ entries, ∀ v, lookup? members m.1 = some v →
        Meets follow m.2 v [m.1]) ↔
      ∀ p ∈ ps, ∀ v, lookup? members p.1 = some v → (check unfollowed p.2 v [p.1]).Clean := by
    refine forall_mem_iff_of_forall₂ h ?_
    rintro m p ⟨hname, c, hc, halike⟩
    rw [hname]
    refine forall₂_congr fun v _ => ?_
    rw [hc.meets_iff, (halike unfollowed v [p.1]).clean_iff]
  rw [← hproperties, ← hnames]
  exact ⟨fun ⟨hp, hr, hk⟩ => ⟨hp, hr, hk⟩, fun ⟨hp, hr, hk⟩ => ⟨hp, hr, hk⟩⟩

end

/-! ## Names -/

/-- Names are read from texts.

**Proof sketch.** Induction on the items: each of them is a text, and it is put behind those before
it. -/
lemma exists_of_readNames {seen : List String} {items : List Json} {r : List String}
    (h : readNames seen items = .ok r) : ∃ names, items = names.map .str ∧ r = seen ++ names := by
  induction items generalizing seen with
  | nil =>
    cases h
    exact ⟨[], rfl, by simp⟩
  | cons v rest ih =>
    cases v with
    | str s =>
      rw [readNames] at h
      split at h
      · cases h
      · obtain ⟨names, rfl, rfl⟩ := ih h
        exact ⟨s :: names, rfl, by simp⟩
    | num n =>
      rw [readNames] at h
      split at h <;> cases h
    | _ => cases h

/-- Names that differ are read from their texts.

**Proof sketch.** Induction on the names: each is different from those that were read. -/
lemma readNames_map_str {seen names : List String} (h : (seen ++ names).Nodup) :
    readNames seen (names.map .str) = .ok (seen ++ names) := by
  induction names generalizing seen with
  | nil => simp [readNames]
  | cons n rest ih =>
    have hnew : seen.contains n = false := by
      rw [List.nodup_append] at h
      simpa using fun hn => h.2.2 n hn n (by simp) rfl
    rw [List.map_cons, readNames, hnew, if_neg (by simp), ih (by simpa using h)]
    simp

/-! ## Documents -/

/-- It does not matter in which order properties are declared. -/
lemma Fulfils.congr {follow : String → Reading Unit} {closed : Bool}
    {schemas schemas' : List (String × Json)} {required : List String}
    {members : List (String × Json)} (hmem : ∀ m, m ∈ schemas ↔ m ∈ schemas')
    (h : Fulfils follow closed schemas required members) :
    Fulfils follow closed schemas' required members where
  properties m hm := h.properties m ((hmem m).2 hm)
  required := h.required
  known hclosed m hm := by
    obtain ⟨m', hm', hname⟩ := List.mem_map.1 (h.known hclosed m hm)
    exact List.mem_map.2 ⟨m', (hmem m').1 hm', hname⟩

/-- Declared properties that compile are an object.

**Proof sketch.** Without the member there are no properties. Otherwise the value is asked to be an
object, and its entries are compiled in their order. -/
lemma exists_of_propertiesOf {e : Edition} {follow : String → Reading Unit}
    {properties : Option Json} {pool : Pool} {r : List (String × Constraint) × Pool}
    (h : propertiesOf e follow (properties.map arrange) pool = .ok r) :
    ∃ entries, properties.getD (.obj []) = .obj entries ∧
      compileEntries e follow .notSchema (sortRanked (entries.map fun m => (m.1, arrange m.2)))
        pool = .ok r := by
  cases properties with
  | none =>
    refine ⟨[], rfl, ?_⟩
    rw [List.map_nil, sortRanked, List.foldl_nil, compileEntries]
    exact h
  | some v =>
    rw [Option.map_some, propertiesOf] at h
    obtain ⟨⟨u, pool'⟩, hkind, h⟩ := bind_eq_ok_iff.1 h
    cases v with
    | obj entries =>
      cases hkind
      rw [arrange, arrangeMembers_eq_map, compileProperties] at h
      exact ⟨entries, rfl, h⟩
    | _ => cases h

/-- Required names that compile are a list of texts.

**Proof sketch.** Without the member there are no names. Otherwise the value is asked to be a list,
and its items are read by `exists_of_readNames`. -/
lemma exists_of_requiredOf {required : Option Json} {pool : Pool}
    {r : Option (List String) × Pool} (h : requiredOf (required.map arrange) pool = .ok r) :
    r.2 = pool ∧ required.getD (.arr []) = .arr ((r.1.getD []).map .str) := by
  cases required with
  | none =>
    cases h
    exact ⟨rfl, rfl⟩
  | some v =>
    unfold requiredOf at h
    obtain ⟨⟨u, pool'⟩, hkind, h⟩ := bind_eq_ok_iff.1 h
    cases v with
    | arr items =>
      cases hkind
      rw [arrange, arrangeItems_eq_map] at h
      obtain ⟨⟨names, pool'⟩, hnames, h⟩ := bind_eq_ok_iff.1 h
      cases h
      cases hread : readNames [] (items.map arrange) with
      | error d =>
        rw [hread] at hnames
        cases hnames
      | ok names' =>
        rw [hread] at hnames
        cases hnames
        obtain ⟨texts, htexts, rfl⟩ := exists_of_readNames hread
        exact ⟨rfl, congrArg Json.arr (arranges_arrange.eq_map_str htexts)⟩
    | _ => cases h

/-- Names that differ are required, unless there are none.

**Proof sketch.** An empty list of names is left out. Any other one is read back as it stands, since
no name is repeated. -/
lemma exists_requiredOf_eq {names : List String} (hnames : names.Nodup) :
    ∃ given : Option (List String), given.getD [] = names ∧
      requiredOf ((if names.isEmpty then none else some (.arr (names.map .str))).map arrange) =
        pure given := by
  cases names with
  | nil => exact ⟨none, rfl, rfl⟩
  | cons n rest =>
    refine ⟨some (n :: rest), rfl, ?_⟩
    have hitems : ((n :: rest).map Json.str).map arrange = (n :: rest).map .str := by
      simp [arrange]
    have hread : readNames [] ((n :: rest).map .str) = .ok (n :: rest) :=
      readNames_map_str (by simpa using hnames)
    rw [List.isEmpty_cons, if_neg (by simp), Option.map_some, arrange, arrangeItems_eq_map, hitems]
    funext pool
    change (liftM (readNames [] ((n :: rest).map .str)) >>= fun names => pure (some names) :
      Reading _) pool = _
    rw [hread]
    rfl

section

variable {doc : Json} {required : Option Json}

/-- **An object schema that compiles admits the objects that have what it asks for**, also after the
schemas of its properties have passed through doubles.

**Proof sketch.** By `compile_rankedMembers` the document is compiled in two steps: its properties
and its required names. Each property is read the same after rounding, so the compiled schema agrees
with the one made from rounded entries, and `clean_iff_fulfils` applies. -/
theorem exists_of_ofDocument {properties : Option Json} {c : Compiled} (hdoc : Portable doc)
    (he : editionOf doc = .ok .mixed)
    (hsettle : doc.settle = .obj (objectMembers false properties required))
    (hc : Compiled.ofDocument doc = .ok c) :
    ∃ entries names, properties.getD (.obj []) = .obj entries ∧
      required.getD (.arr []) = .arr (names.map .str) ∧ c.definitions = [] ∧
      ∀ follow, (∀ m ∈ entries, ∃ s, Compiles follow (arrange m.2.rounded) s) ∧
        ∀ body, (check unfollowed c.root body []).Clean ↔ ∃ members, body = .obj members ∧
          Fulfils follow false (entries.map fun m => (m.1, arrange m.2.rounded)) names members := by
  obtain ⟨follow₀, hcompile⟩ := exists_ofDocument_eq hdoc.unlinked he
  rw [hcompile, hsettle, arrange_objectMembers, compile_rankedMembers] at hc
  obtain ⟨⟨root, pool⟩, hroot, rfl⟩ := map_eq_ok_iff.1 hc
  obtain ⟨⟨ps, pool₁⟩, hps, hroot⟩ := bind_eq_ok_iff.1 hroot
  obtain ⟨⟨names, pool₂⟩, hnames, hroot⟩ := bind_eq_ok_iff.1 hroot
  cases hroot
  obtain ⟨entries, hentries, hcompile⟩ := exists_of_propertiesOf hps
  obtain ⟨rfl, hrequired⟩ := exists_of_requiredOf hnames
  have hmembers : Portable (.obj (objectMembers false properties required)) :=
    hsettle ▸ hdoc.arranged arranges_settle
  have hportable : Portable (.obj entries) := by
    cases properties with
    | none =>
      cases hentries
      exact hmembers.of_subset_obj (List.nil_subset _)
    | some v =>
      obtain rfl : v = .obj entries := hentries
      exact hmembers.of_mem_obj (m := ("properties", .obj entries)) (by simp [objectMembers])
  have hsorted : Portable (.obj (sortRanked (entries.map fun m => (m.1, arrange m.2)))) := by
    have := hportable.arranged arranges_arrange
    rwa [arrange, arrangeMembers_eq_map] at this
  have hmem : ∀ m, m ∈ (sortRanked (entries.map fun m => (m.1, arrange m.2))).map
      (fun m => (m.1, m.2.rounded)) ↔ m ∈ entries.map fun m => (m.1, arrange m.2.rounded) := by
    intro m
    rw [← sortRanked_map, mem_sortRanked, List.map_map]
    simp only [Function.comp_def, arrange_rounded]
  obtain ⟨hpool, -⟩ := compileAlike_of_compileEntries hsorted hcompile follow₀
  refine ⟨entries, _, hentries, hrequired, congrArg Pool.finished hpool, fun follow => ?_⟩
  obtain ⟨-, halike⟩ := compileAlike_of_compileEntries hsorted hcompile follow
  constructor
  · have hall := (forall_mem_iff_of_forall₂ (P := fun m => ∃ s, Compiles follow m.2 s)
      (Q := fun _ => True) halike fun m p h => iff_true_intro ⟨_, h.2.choose_spec.1⟩).2 (by simp)
    intro m hm
    exact hall (m.1, arrange m.2.rounded) ((hmem _).2 (List.mem_map.2 ⟨m, hm, rfl⟩))
  · intro body
    rw [clean_iff_fulfils halike]
    refine exists_congr fun members => and_congr_right fun _ => ?_
    exact ⟨.congr hmem, .congr fun m => (hmem m).symm⟩

/-- **An object schema compiles if the schemas of its properties do**, and it admits the objects
that have what it asks for.

**Proof sketch.** The two steps of `compile_rankedMembers` succeed: the properties by assumption,
one by one, and the names since none is repeated. Then `clean_iff_fulfils` applies. -/
theorem exists_ofDocument_eq_ok {closed : Bool} {entries : List (String × Json)}
    {names : List String} (hdoc : Unlinked doc) (he : editionOf doc = .ok .mixed)
    (hsettle : doc.settle = .obj (objectMembers closed (some (.obj entries))
      (if names.isEmpty then none else some (.arr (names.map .str)))))
    (hnames : names.Nodup)
    (hentries : ∀ follow, ∀ m ∈ entries, ∃ s, Compiles follow (arrange m.2) s) :
    ∃ follow root, Compiled.ofDocument doc = .ok ⟨root, []⟩ ∧
      ∀ body, (check unfollowed root body []).Clean ↔ ∃ members, body = .obj members ∧
        Fulfils follow closed (entries.map fun m => (m.1, arrange m.2)) names members := by
  obtain ⟨follow, hcompile⟩ := exists_ofDocument_eq hdoc he
  rw [hsettle, arrange_objectMembers, compile_rankedMembers] at hcompile
  have hmem : ∀ m, m ∈ sortRanked (entries.map fun m => (m.1, arrange m.2)) ↔
      m ∈ entries.map fun m => (m.1, arrange m.2) := fun m => mem_sortRanked
  have hall : ∀ m ∈ sortRanked (entries.map fun m => (m.1, arrange m.2)),
      ∃ s, Compiles follow m.2 s := by
    intro m hm
    obtain ⟨m', hm', rfl⟩ := List.mem_map.1 ((hmem m).1 hm)
    exact hentries follow m' hm'
  obtain ⟨ps, hps, hread⟩ := exists_compileEntries_eq hall
  have hproperties : propertiesOf .mixed follow ((some (.obj entries)).map arrange) = pure ps := by
    rw [Option.map_some, arrange, arrangeMembers_eq_map]
    exact funext hread
  obtain ⟨given, hgiven, hrequired⟩ := exists_requiredOf_eq hnames
  rw [hproperties, hrequired, pure_bind, pure_bind] at hcompile
  refine ⟨follow, _, hcompile, fun body => ?_⟩
  rw [clean_iff_fulfils hps, hgiven]
  refine exists_congr fun members => and_congr_right fun _ => ?_
  exact ⟨.congr hmem, .congr fun m => (hmem m).symm⟩

end

end SchemaKit.Validation
