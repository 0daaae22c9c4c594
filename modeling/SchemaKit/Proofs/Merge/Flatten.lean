import SchemaKit.Proofs.Json.Canonical
import SchemaKit.Proofs.Merge.Union

/-!
# Merging merged schemas

A merged schema is a schema document again, and reading it gives back exactly the properties and the
required names that it was made of. So it can stand for the documents that were merged into it, in
any further merge.

## Main definitions

* `SchemaKit.Merge.mergedText` — the text of the merged schema.
* `SchemaKit.Merge.gather?` — what a merge takes from several texts.
* `SchemaKit.Merge.KeptBelow` — a predicate that holds of properties while they are read.

## Main results

* `SchemaKit.Merge.ofText?_document` — reading a merged schema gives back what it was made of.
* `SchemaKit.Merge.gather?_mergedText` — a merged schema stands for the texts that were merged.
* `SchemaKit.Merge.mergedText_append` — merging in groups is merging at once.
-/

namespace SchemaKit.Merge

open Json (maxDepth readWhole)

/-- The text of the merged schema. -/
def mergedText (s : Strategy) (strict : Bool) (texts : List (List Char)) :
    Except Fault (List Char) :=
  (schemas s strict texts).map (·.indented.toList)

/-! ## Gathering fragments -/

/-- The fragment of a text. -/
def Fragment.ofText? (text : List Char) : Option Fragment := (readWhole text).bind Fragment.read?

/-- The merged schema of what was gathered. -/
def Fragment.document (strict : Bool) (f : Fragment) : Json :=
  mergedSchema strict f.properties f.required

/-- The fragments of texts joined one by one to what was gathered before. -/
def gather? (s : Strategy) (acc : Fragment) (texts : List (List Char)) : Option Fragment :=
  texts.foldlM (fun acc text => (Fragment.ofText? text).bind (acc.join? s)) acc

/-- Gathering the texts of two lists. -/
lemma gather?_append (s : Strategy) (acc : Fragment) (xs ys : List (List Char)) :
    gather? s acc (xs ++ ys) = (gather? s acc xs).bind (gather? s · ys) :=
  List.foldlM_append

/-- Steps that each take in a result can take in all the results at once.

**Proof sketch.** Induction on the list. A failing step and a failing result behind it give the
same. -/
lemma foldlM_bind_eq {α β σ : Type} (f : α → Option β) (g : σ → β → Option σ) (acc : σ)
    (xs : List α) :
    xs.foldlM (fun acc x => (f x).bind (g acc)) acc = (xs.mapM f).bind (List.foldlM g acc) := by
  induction xs generalizing acc with
  | nil => rfl
  | cons x xs ih =>
    rw [List.foldlM_cons, List.mapM_cons]
    cases f x with
    | none => rfl
    | some y =>
      simp only [Option.bind_some, Option.bind_eq_bind, ih, Option.pure_def, Option.bind_assoc,
        List.foldlM_cons]
      -- whether the step or the rest of the results is missing first makes no difference
      cases g acc y <;> cases xs.mapM f <;> rfl

/-- **A group of texts can be gathered first.** -/
lemma gather?_eq_bind (s : Strategy) {acc : Fragment} (hacc : acc.InOrder)
    (texts : List (List Char)) :
    gather? s acc texts = (gather? s .blank texts).bind (acc.join? s) := by
  rw [gather?, foldlM_bind_eq, gather?, foldlM_bind_eq, Option.bind_assoc]
  congr 1
  funext fs
  exact foldlM_join?_eq_bind s hacc fs

/-- Merging texts is gathering their fragments.

**Proof sketch.** Induction on the texts. A text is read as its fragment, its properties are added,
and its names are put into the list of all names seen so far. -/
lemma mergeTexts_toOption (s : Strategy) (i : Nat) (acc : Entries) (seen : List Fragment)
    (texts : List (List Char)) :
    (mergeTexts s i acc seen texts).toOption.map (fun r => ⟨r.1, requiredOf r.2⟩) =
      gather? s ⟨acc, requiredOf seen⟩ texts := by
  induction texts generalizing i acc seen with
  | nil => rfl
  | cons text rest ih =>
    have hstep : gather? s ⟨acc, requiredOf seen⟩ (text :: rest) =
        ((Fragment.ofText? text).bind (Fragment.join? s ⟨acc, requiredOf seen⟩)).bind
          (gather? s · rest) := List.foldlM_cons
    rw [hstep, mergeTexts, ← Fragment.ofText?]
    cases hread : Fragment.ofText? text with
    | none => rfl
    | some f =>
      cases hadd : addProperties s acc f.properties with
      | error e => simp [Fragment.join?, hadd, Except.toOption]
      | ok acc' =>
        have hnames : requiredOf (seen ++ [f]) = insertNames (requiredOf seen) f.required := by
          simp [requiredOf, insertNames]
        have hjoin : Fragment.join? s ⟨acc, requiredOf seen⟩ f =
            some ⟨acc', requiredOf (seen ++ [f])⟩ := by
          simp [Fragment.join?, hadd, Except.toOption, hnames]
        rw [Option.bind_some, hjoin, Option.bind_some]
        simp only [hadd]
        exact ih (i + 1) acc' (seen ++ [f])

/-- The merged schema of some texts is that of what is gathered from them. -/
lemma mergedText_toOption (s : Strategy) (strict : Bool) {texts : List (List Char)}
    (h : texts ≠ []) :
    (mergedText s strict texts).toOption =
      (gather? s .blank texts).map fun f => (f.document strict).indented.toList := by
  have hgather := mergeTexts_toOption s 0 [] [] texts
  rw [show (⟨[], requiredOf []⟩ : Fragment) = .blank from rfl] at hgather
  rw [← hgather, mergedText, schemas, if_neg (by simpa using h)]
  cases mergeTexts s 0 [] [] texts with
  | error e => rfl
  | ok r => rfl

/-! ## What holds of the properties that are read -/

section

variable {P : Entries → Prop} {d : Nat} {old r : Entries}

/-- A predicate on entries is kept when values that lie less deep than `d` are decoded and put over
them. -/
def KeptBelow (P : Entries → Prop) (d : Nat) : Prop :=
  ∀ k v w es, v.depth < d → Json.canonical? v = some w → P es → P (Json.insertSorted k w es)

/-- A member of an object lies less deep than the object. -/
lemma depth_lt_of_mem {m : String × Json} {members : List (String × Json)} (h : m ∈ members) :
    m.2.depth < (Json.obj members).depth :=
  Nat.lt_succ_of_le (Json.depthMembers_le_iff.1 le_rfl m h)

/-- It holds of entries that the members of an object were put over.

**Proof sketch.** Induction on the members, each of which is decoded and put over the entries. -/
lemma KeptBelow.of_overlay? (hkept : KeptBelow P d) {members : List (String × Json)}
    (hmembers : ∀ m ∈ members, m.2.depth < d) (h : overlay? old members = some r) (hold : P old) :
    P r := by
  induction members generalizing old with
  | nil =>
    cases h
    exact hold
  | cons m rest ih =>
    rw [List.forall_mem_cons] at hmembers
    unfold overlay? at h
    split at h
    · next w hw => exact ih hmembers.2 h (hkept _ _ _ _ hmembers.1 hw hold)
    · cases h

/-- It holds of properties that are read. -/
lemma KeptBelow.of_readProperties (hkept : KeptBelow P d) (hnil : P []) {v : Json}
    (hv : v.depth ≤ d) (h : readProperties old v = some r) (hold : P old) : P r := by
  unfold readProperties at h
  split at h
  · cases h
    exact hnil
  · exact hkept.of_overlay? (fun m hm => (depth_lt_of_mem hm).trans_le hv) h hold
  · cases h

/-- It holds of properties that are read one after the other.

**Proof sketch.** Induction on the values that are read. -/
lemma KeptBelow.of_foldlM_readProperties (hkept : KeptBelow P d) (hnil : P []) {vs : List Json}
    (hvs : ∀ v ∈ vs, v.depth ≤ d) (h : vs.foldlM readProperties old = some r) (hold : P old) :
    P r := by
  induction vs generalizing old with
  | nil =>
    cases h
    exact hold
  | cons v rest ih =>
    rw [List.forall_mem_cons] at hvs
    rw [List.foldlM_cons] at h
    obtain ⟨new, hnew, hrest⟩ := Option.bind_eq_some_iff.1 h
    exact ih hvs.2 hrest (hkept.of_readProperties hnil hvs.1 hnew hold)

/-- **It holds of the properties of a text**, which lie inside of two objects.

**Proof sketch.** A text that is read is at most `maxDepth` containers deep, and its properties lie
inside of one more object. -/
lemma KeptBelow.of_ofText? (hkept : KeptBelow P (maxDepth - 1)) (hnil : P []) {text : List Char}
    {f : Fragment} (h : Fragment.ofText? text = some f) : P f.properties := by
  obtain ⟨doc, hdoc, hread⟩ := Option.bind_eq_some_iff.1 h
  have hfits := Json.fits_of_readWhole hdoc
  unfold Fragment.read? at hread
  split at hread
  · cases hread
    exact hnil
  · split at hread
    · next hproperties _ =>
      cases hread
      refine hkept.of_foldlM_readProperties hnil (fun v hv => ?_) hproperties hnil
      obtain ⟨m, hm, rfl⟩ := List.mem_map.1 hv
      exact Nat.le_sub_one_of_lt
        ((depth_lt_of_mem (List.mem_of_mem_filter hm)).trans_le hfits.depth_le)
    · cases hread
  · cases hread

end

/-! ## Values that can be written again -/

/-- The values of properties: canonical ones, with room for the two objects around them. -/
structure Storable (v : Json) : Prop where
  canonical : Json.Canonical v
  depth_le : v.depth + 2 ≤ maxDepth

/-- What is decoded is canonical, and no deeper than it was before. -/
lemma keptBelow_canonical (d : Nat) :
    KeptBelow (fun es => ∀ e ∈ es, Json.Canonical e.2 ∧ e.2.depth < d) d := by
  intro k v w es hdepth hw hes e he
  obtain ⟨hcanonical, hle⟩ := Json.canonical_of_canonical? hw
  rcases Json.mem_of_mem_insertSorted he with rfl | he
  · exact ⟨hcanonical, hle.trans_lt hdepth⟩
  · exact hes e he

/-- The properties of a text are storable. -/
lemma storable_of_ofText? {text : List Char} {f : Fragment} (h : Fragment.ofText? text = some f) :
    ∀ e ∈ f.properties, Storable e.2 := by
  intro e he
  obtain ⟨hcanonical, hdepth⟩ := (keptBelow_canonical _).of_ofText? nofun h e he
  exact ⟨hcanonical, by omega⟩

/-- What was gathered: in order, and with properties that can be written again. -/
structure Fragment.Sound (f : Fragment) : Prop extends f.InOrder where
  storable : ∀ e ∈ f.properties, Storable e.2

/-- The fragment that says nothing is sound. -/
lemma sound_blank : Fragment.blank.Sound := ⟨Fragment.inOrder_blank, nofun⟩

/-- **Gathering keeps what was gathered sound.**

**Proof sketch.** Induction on the texts. A property of the joined fragment was there before or
comes from a text, and what comes from a text can be stored by `storable_of_ofText?`. -/
lemma Fragment.Sound.gather? {s : Strategy} {acc f : Fragment} {texts : List (List Char)}
    (hacc : acc.Sound) (h : gather? s acc texts = some f) : f.Sound := by
  induction texts generalizing acc with
  | nil =>
    cases h
    exact hacc
  | cons text rest ih =>
    obtain ⟨next, hnext, hrest⟩ := Option.bind_eq_some_iff.1 (List.foldlM_cons.symm.trans h)
    obtain ⟨g, hg, hjoin⟩ := Option.bind_eq_some_iff.1 hnext
    refine ih ⟨hacc.toInOrder.join? hjoin, ?_⟩ hrest
    obtain ⟨ps, hps, rfl⟩ := Option.map_eq_some_iff.1 hjoin
    cases hadd : addProperties s acc.properties g.properties with
    | error e =>
      rw [hadd] at hps
      cases hps
    | ok ps' =>
      rw [hadd] at hps
      cases hps
      intro e he
      rcases mem_of_mem_addProperties hadd he with he | he
      · exact hacc.storable e he
      · exact storable_of_ofText? hg e he

/-! ## Reading a merged schema -/

/-- Members that can all be decoded are put over entries in their order. -/
lemma overlay?_eq_foldl {g : Json → Json} {members : List (String × Json)}
    (h : ∀ m ∈ members, Json.canonical? m.2 = some (g m.2)) (old : Entries) :
    overlay? old members =
      some (members.foldl (fun acc m => Json.insertSorted m.1 (g m.2) acc) old) := by
  induction members generalizing old with
  | nil => rfl
  | cons m rest ih =>
    rw [List.forall_mem_cons] at h
    unfold overlay?
    rw [h.1]
    exact ih h.2 _

/-- Entries with canonical values are put one behind the other if they are in order. -/
lemma overlay?_eq_append {old es : Entries} (h : ∀ e ∈ es, Json.Canonical e.2)
    (hasc : Ascending (old ++ es)) : overlay? old es = some (old ++ es) := by
  rw [overlay?_eq_foldl (g := id) (fun e he => (h e he).canonical?_eq)]
  exact congrArg some (Json.foldl_insertSorted_eq_append hasc)

/-- The names of a list of texts. -/
lemma readNames_map_str (old names : List String) :
    readNames old (names.map .str) = some names := by
  induction names generalizing old with
  | nil => rfl
  | cons n rest ih => simp [readNames, ih]

/-- The members of a merged schema that are taken for its properties.

**Proof sketch.** The members of the document have four different names, of which no two are taken
for each other. All cases are evaluated. -/
lemma fieldsNamed_properties (strict : Bool) (properties : Entries) (required : List String) :
    ∃ members, mergedSchema strict properties required = .obj members ∧
      Json.fieldsNamed members "properties" = [.obj properties] ∧
      Json.fieldsNamed members "required" =
        if required.isEmpty then [] else [.arr (required.map .str)] := by
  have hclosed : Text.equalFold "additionalProperties" "properties" = false ∧
      Text.equalFold "additionalProperties" "required" = false := by decide
  have hproperties : Text.equalFold "properties" "required" = false := by decide
  have hrequired : Text.equalFold "required" "properties" = false := by decide
  have htype : Text.equalFold "type" "properties" = false ∧
      Text.equalFold "type" "required" = false := by decide
  refine ⟨_, rfl, ?_, ?_⟩
  · cases strict <;> cases required.isEmpty <;>
      simp [Json.fieldsNamed, hclosed, hrequired, htype]
  · cases strict <;> cases required.isEmpty <;>
      simp [Json.fieldsNamed, hclosed, hproperties, htype]

/-- The document of a sound fragment can be written and read.

**Proof sketch.** The properties can be stored one container deeper than they stood in their texts,
and all other members are flat. -/
lemma Fragment.Sound.fits {f : Fragment} (h : f.Sound) (strict : Bool) :
    Json.Fits maxDepth (f.document strict) := by
  have hproperties : Json.Fits 9999 (.obj f.properties) := by
    refine Json.fits_obj_iff.2 fun e he => ⟨(h.storable e he).canonical.wellFormed, ?_⟩
    have := (h.storable e he).depth_le
    have hmax : maxDepth = 10000 := rfl
    omega
  have hrequired : Json.Fits 9999 (.arr (f.required.map .str)) := by
    refine Json.fits_arr_iff.2 fun v hv => ?_
    obtain ⟨n, -, rfl⟩ := List.mem_map.1 hv
    exact ⟨trivial, Nat.zero_le _⟩
  have hplain : ∀ v : Json, v.WellFormed → v.depth = 0 → Json.Fits 9999 v :=
    fun v hv hd => ⟨hv, hd ▸ Nat.zero_le _⟩
  refine Json.fits_obj_iff.2 fun m hm => ?_
  simp only [List.mem_append, List.mem_singleton] at hm
  rcases hm with ((hm | rfl) | hm) | rfl
  · cases strict with
    | false => cases hm
    | true =>
      obtain rfl := List.mem_singleton.1 hm
      exact hplain _ trivial rfl
  · exact hproperties
  · split at hm
    · cases hm
    · obtain rfl := List.mem_singleton.1 hm
      exact hrequired
  · exact hplain _ trivial rfl

/-- **Reading a merged schema gives back what it was made of.**

**Proof sketch.** The indented document is read back by `readWhole_indented`. Its properties are in
canonical form, so decoding them changes nothing, and the required names are read as they were
written. -/
theorem ofText?_document {f : Fragment} (h : f.Sound) (strict : Bool) :
    Fragment.ofText? (f.document strict).indented.toList = some f := by
  rw [Fragment.ofText?, Json.readWhole_indented (h.fits strict), Option.bind_some]
  obtain ⟨members, hdoc, hproperties, hrequired⟩ :=
    fieldsNamed_properties strict f.properties f.required
  have hoverlay : overlay? [] f.properties = some f.properties :=
    overlay?_eq_append (fun e he => (h.storable e he).canonical) h.properties
  have hread : (Json.fieldsNamed members "properties").foldlM readProperties [] =
      some f.properties := by
    rw [hproperties, List.foldlM_cons, readProperties, hoverlay]
    rfl
  have hnames : ((Json.fieldsNamed members "required").foldlM readRequired ⟨[], []⟩).map
      (·.names) = some f.required := by
    rw [hrequired]
    cases hlist : f.required with
    | nil => rfl
    | cons n rest =>
      have hitems : readNames [] ((n :: rest).map .str) = some (n :: rest) := readNames_map_str _ _
      simp only [List.map_cons] at hitems
      simp [readRequired, hitems]
  obtain ⟨required, hrequired', hnames'⟩ := Option.map_eq_some_iff.1 hnames
  rw [Fragment.document, hdoc, Fragment.read?, hread, hrequired']
  simp only [hnames']

/-! ## Merging in groups -/

/-- What is gathered from a merged schema is what is gathered from the texts that were merged, also
if there were none.

**Proof sketch.** Without texts both sides are blank. Otherwise the merged schema is the document of
the gathered fragment, and it is read back by `ofText?_document`. -/
lemma ofText?_mergedText (s : Strategy) (strict : Bool) (texts : List (List Char)) :
    (mergedText s strict texts).toOption.bind Fragment.ofText? = gather? s .blank texts := by
  by_cases h : texts = []
  · subst h
    rfl
  · rw [mergedText_toOption s strict h, Option.bind_map]
    cases hgather : gather? s .blank texts with
    | none => rfl
    | some f =>
      rw [Option.bind_some]
      exact ofText?_document (sound_blank.gather? hgather) strict

/-- **A merged schema stands for the texts that were merged into it**, wherever they stand among other
texts.

**Proof sketch.** What the group is merged to is read back as the fragment of the group, by
`ofText?_mergedText`. Joining that fragment to what was gathered before is joining the texts one by
one, by `gather?_eq_bind`. -/
theorem gather?_mergedText (s : Strategy) (strict : Bool) (before texts behind : List (List Char)) :
    ((mergedText s strict texts).toOption.bind fun text =>
        gather? s .blank (before ++ text :: behind)) =
      gather? s .blank (before ++ (texts ++ behind)) := by
  have hcons : ∀ (acc : Fragment) (text : List Char), gather? s acc (text :: behind) =
      ((Fragment.ofText? text).bind (acc.join? s)).bind (gather? s · behind) :=
    fun _ _ => List.foldlM_cons
  rw [gather?_append]
  simp only [gather?_append s _ before]
  cases hbefore : gather? s .blank before with
  | none => cases (mergedText s strict texts).toOption <;> rfl
  | some acc =>
    have hacc : acc.Sound := sound_blank.gather? hbefore
    simp only [Option.bind_some, hcons, ← Option.bind_assoc]
    rw [ofText?_mergedText, ← gather?_eq_bind s hacc.toInOrder, gather?_append]

/-- Of a sequence of two steps only the outcome of both counts. -/
lemma toOption_bind {ε α β : Type} (x : Except ε α) (f : α → Except ε β) :
    (x >>= f).toOption = x.toOption.bind fun a => (f a).toOption := by
  cases x <;> rfl

/-- Of a sequence of steps over a list, too, only the outcome of all of them counts. -/
lemma toOption_mapM_cons {ε α β : Type} (f : α → Except ε β) (x : α) (xs : List α) :
    ((x :: xs).mapM f).toOption =
      (f x).toOption.bind fun y => (xs.mapM f).toOption.map (y :: ·) := by
  rw [List.mapM_cons, toOption_bind]
  congr 1
  funext y
  rw [toOption_bind]
  cases xs.mapM f <;> rfl

/-- Several merged schemas stand for the texts that were merged into them.

**Proof sketch.** Induction on the groups. The merged schema of the first group joins the texts in
front; the others are dealt with by the induction hypothesis, and then it is replaced by its group. -/
lemma gather?_mapM_mergedText (s : Strategy) (strict : Bool) (before rest : List (List Char))
    (groups : List (List (List Char))) :
    ((groups.mapM (mergedText s strict)).toOption.bind fun texts =>
        gather? s .blank (before ++ (texts ++ rest))) =
      gather? s .blank (before ++ (groups.flatten ++ rest)) := by
  induction groups generalizing before with
  | nil => rfl
  | cons group groups ih =>
    have hshift : ∀ (text : List Char) (texts : List (List Char)),
        before ++ (text :: texts ++ rest) = (before ++ [text]) ++ (texts ++ rest) := by simp
    rw [toOption_mapM_cons, Option.bind_assoc, List.flatten_cons, List.append_assoc,
      ← gather?_mergedText]
    congr 1
    funext text
    rw [Option.bind_map]
    simp only [Function.comp_def, hshift, ih]
    simp

/-- Merging in groups is merging at once: some documents in groups, and further ones behind them.

**Proof sketch.** Each group stands for its texts by `gather?_mapM_mergedText`. The list of merged
schemas is empty only if there is nothing to merge at all, which is excluded. -/
lemma mergedText_groups (s : Strategy) (strict : Bool) (groups : List (List (List Char)))
    (rest : List (List Char)) (h : groups.flatten ++ rest ≠ []) :
    (mergedText s strict (groups.flatten ++ rest)).toOption =
      (groups.mapM (mergedText s strict) >>= fun texts =>
        mergedText s strict (texts ++ rest)).toOption := by
  have hgather := gather?_mapM_mergedText s strict [] rest groups
  simp only [List.nil_append] at hgather
  rw [mergedText_toOption s strict h, toOption_bind, ← hgather, Option.map_bind]
  cases htexts : (groups.mapM (mergedText s strict)).toOption with
  | none => rfl
  | some texts =>
    -- as many merged schemas as groups, so that the second merge has something to merge as well
    have hne : texts ++ rest ≠ [] := by
      intro hnil
      obtain ⟨rfl, rfl⟩ := List.append_eq_nil_iff.1 hnil
      cases groups with
      | nil => exact h rfl
      | cons group groups =>
        rw [toOption_mapM_cons] at htexts
        obtain ⟨text, -, hcons⟩ := Option.bind_eq_some_iff.1 htexts
        obtain ⟨texts, -, hnil⟩ := Option.map_eq_some_iff.1 hcons
        cases hnil
    exact (mergedText_toOption s strict hne).symm

/-- **Merging in groups is merging at once.** Documents `xs` and `ys`, not both empty, are merged with
the same outcome as the merged schemas of the two lists: both fail, or both give the same text. The
same holds for any division of the documents into merged groups and further documents behind them.

**Proof sketch.** Both parts are `mergedText_groups`: once with the two lists as groups and nothing
behind them, once with the given groups. -/
theorem mergedText_append (s : Strategy) (strict : Bool) (xs ys : List (List Char))
    (h : xs ≠ [] ∨ ys ≠ []) :
    (mergedText s strict (xs ++ ys)).toOption =
        (do mergedText s strict [← mergedText s strict xs, ← mergedText s strict ys]).toOption ∧
      ∀ (groups : List (List (List Char))) (rest : List (List Char)),
        groups.flatten ++ rest = xs ++ ys →
        (mergedText s strict (xs ++ ys)).toOption =
          (do mergedText s strict ((← groups.mapM (mergedText s strict)) ++ rest)).toOption := by
  have hne : xs ++ ys ≠ [] := by
    rw [Ne, List.append_eq_nil_iff, not_and_or]
    exact h
  constructor
  · have hpair := mergedText_groups s strict [xs, ys] [] (by simpa using hne)
    simp only [List.flatten_cons, List.flatten_nil, List.append_nil] at hpair
    rw [hpair, List.mapM_cons, List.mapM_cons, List.mapM_nil]
    simp only [bind_assoc, pure_bind]
  · intro groups rest hgroups
    rw [← hgroups] at hne ⊢
    exact mergedText_groups s strict groups rest hne

/-- A fragment that requires a property which it does not declare. -/
def demanding : List Char :=
  "\x7b\"properties\":\x7b\"a\":\x7b\"minimum\":1e0\x7d\x7d,\"required\":[\"b\",\"a\"]\x7d".toList

/-- A fragment that declares two properties. -/
def declaring : List Char :=
  "\x7b\"properties\":\x7b\"b\":true,\"a\":\x7b\x7d\x7d\x7d".toList

/-- Two fragments that disagree about a property, merged in two groups of one. -/
theorem mergedText_append_disagreeing :
    ([demanding] ≠ [] ∨ [declaring] ≠ []) ∧
      (mergedText .keep true [demanding, declaring]).toOption =
        (do mergedText .keep true [← mergedText .keep true [demanding],
          ← mergedText .keep true [declaring]]).toOption := by
  have hne : [demanding] ≠ [] ∨ [declaring] ≠ [] := .inl (List.cons_ne_nil _ _)
  exact ⟨hne, (mergedText_append .keep true [demanding] [declaring] hne).1⟩

end SchemaKit.Merge
