import SchemaKit.Proofs.Merge.Iteration

/-!
# What overlaying makes of examples

Examples are laid over each other member by member. The merged example says of each name what the
last example says that speaks about it. So what becomes of a group of examples depends on nothing
else, and their merged text can stand for the group among further examples.

## Main definitions

* `SchemaKit.Merge.decoded?` — what a text is decoded to.
* `SchemaKit.Merge.member?` — the value that a text gives to a name.

## Main results

* `SchemaKit.Merge.overlaidText_toOption` — a merged example is made of the entries of all texts.
* `SchemaKit.Merge.overlaidText_group` — a merged example stands for the texts that were merged.
* `SchemaKit.Merge.overlaidText_spec` — when examples are merged, and to what.
-/

namespace SchemaKit.Merge

open Json (maxDepth readWhole lookup? last? canonical? Canonical)

/-! ## One text -/

/-- What a text is decoded to. -/
def decoded? (text : List Char) : Option Json := (readWhole text).bind canonical?

/-- The value that a text gives to a name, as it is written: that of the last member with the
name. -/
def member? (name : String) (text : List Char) : Option Json := (readWhole text).bind (·.get? name)

/-- Members in two parts. -/
lemma overlay?_append (old : Entries) (members more : List (String × Json)) :
    overlay? old (members ++ more) = (overlay? old members).bind (overlay? · more) := by
  induction members generalizing old with
  | nil => rfl
  | cons m rest ih =>
    rw [List.cons_append, overlay?, overlay?]
    cases canonical? m.2 with
    | none => rfl
    | some w => exact ih _

/-- A value as it is written, and what it is decoded to. -/
def DecodesTo (raw v : Json) : Prop := canonical? raw = some v

/-- What there is, if anything, is what was written, decoded. -/
lemma eq_bind_of_rel {raw v : Option Json} (h : Option.Rel DecodesTo raw v) :
    v = raw.bind canonical? := by
  cases h with
  | none => rfl
  | some h => exact Eq.symm h

/-- **Of repeated names the last member counts.**

**Proof sketch.** Induction on the members from the end: the last one with the name is decoded and
put over the others. -/
lemma rel_lookup?_of_overlay? {members : List (String × Json)} {es : Entries}
    (h : overlay? [] members = some es) (name : String) :
    Option.Rel DecodesTo (last? members name) (lookup? es name) := by
  induction members using List.reverseRecOn generalizing es with
  | nil =>
    cases h
    exact .none
  | append_singleton ms m ih =>
    rw [overlay?_append] at h
    obtain ⟨before, hbefore, hlast⟩ := Option.bind_eq_some_iff.1 h
    rw [overlay?] at hlast
    split at hlast
    · next w hw =>
      cases hlast
      rw [Json.lookup?_insertSorted, Json.last?_concat]
      split_ifs
      · exact .some hw
      · exact ih hbefore
    · cases hlast

/-- An object is decoded member by member.

**Proof sketch.** Induction on the members: they are rounded one by one, and putting them over each
other sorts them. -/
lemma canonical?_obj (members : List (String × Json)) :
    canonical? (.obj members) = (overlay? [] members).map .obj := by
  have hround : ∀ old, overlay? old members =
      (Json.roundMembers? members).map fun us => putAll old (Json.settle.settleMembers us) := by
    induction members with
    | nil => exact fun _ => rfl
    | cons m rest ih =>
      intro old
      rw [overlay?, Json.roundMembers?, canonical?]
      cases Json.round? m.2 with
      | none => rfl
      | some u =>
        simp only [Option.map_some, ih]
        cases Json.roundMembers? rest <;> rfl
  rw [hround, canonical?, Json.round?, Option.map_map, Option.map_map]
  rfl

/-- A text has entries iff it is decoded to an object or to null.

**Proof sketch.** By the kind of document: an object is decoded to an object, `null` to `null`, and
everything else to something else. -/
lemma exists_entriesOf?_iff {text : List Char} :
    (∃ es, entriesOf? text = some es) ↔
      decoded? text = some .null ∨ ∃ members, decoded? text = some (.obj members) := by
  rw [entriesOf?, decoded?]
  cases readWhole text with
  | none => simp
  | some doc =>
    cases doc with
    | obj members =>
      simp only [Option.bind_some, readProperties, canonical?_obj]
      cases overlay? [] members <;> simp
    | arr items =>
      simp only [Option.bind_some, readProperties, canonical?, Json.round?]
      cases Json.roundItems? items <;> simp [Json.settle]
    | num n =>
      simp only [Option.bind_some, readProperties, canonical?, Json.round?]
      cases n.double? <;> simp [Json.settle]
    | null => exact ⟨fun _ => .inl rfl, fun _ => ⟨_, rfl⟩⟩
    | bool _ | str _ => simp [readProperties, canonical?, Json.round?, Json.settle]

/-- The entries of a text are what it gives to names, decoded. -/
lemma rel_lookup?_of_entriesOf? {text : List Char} {es : Entries} (h : entriesOf? text = some es)
    (name : String) : Option.Rel DecodesTo (member? name text) (lookup? es name) := by
  obtain ⟨doc, hdoc, hread⟩ := Option.bind_eq_some_iff.1 h
  rw [member?, hdoc, Option.bind_some]
  cases doc with
  | obj members => exact rel_lookup?_of_overlay? hread name
  | null =>
    cases hread
    exact .none
  | bool _ | num _ | str _ | arr _ => cases hread

/-! ## Several texts -/

/-- Values as they are written, and what they are decoded to. -/
def Decodes (raws vs : List Json) : Prop := List.Forall₂ DecodesTo raws vs

/-- The chosen one of the decoded values is what the chosen value is decoded to.

**Proof sketch.** The values correspond one by one, so the first ones do, and so do the last ones. -/
lemma Decodes.chosen? {raws vs : List Json} (h : Decodes raws vs) (s : Strategy) :
    Option.Rel DecodesTo (s.chosen? raws) (s.chosen? vs) := by
  have hhead {raws vs : List Json} (h : Decodes raws vs) :
      Option.Rel DecodesTo raws.head? vs.head? := by
    cases h with
    | nil => exact .none
    | cons hfirst _ => exact .some hfirst
  have hlast : Option.Rel DecodesTo raws.getLast? vs.getLast? := by
    rw [← List.head?_reverse, ← List.head?_reverse]
    exact hhead (List.forall₂_reverse_iff.2 h)
  cases s with
  | keep => exact hhead h
  | overwrite => exact hlast
  | refuse => exact hlast

/-! ## Merged examples -/

/-- Entries as they stand in an example: in order, and with values that can be written and read
again. -/
structure Settled (es : Entries) : Prop where
  ascending : Ascending es
  readable : ∀ e ∈ es, Canonical e.2 ∧ e.2.depth < maxDepth

namespace Settled

variable {acc es : Entries}

/-- No entries are settled. -/
lemma nil : Settled [] := ⟨ascending_nil, nofun⟩

/-- The entries of a text are settled. -/
lemma of_entriesOf? {text : List Char} (h : entriesOf? text = some es) : Settled es := by
  obtain ⟨doc, hdoc, hread⟩ := Option.bind_eq_some_iff.1 h
  refine ⟨ascending_of_entriesOf? h, ?_⟩
  exact (keptBelow_canonical _).of_readProperties nofun (Json.fits_of_readWhole hdoc).depth_le hread
    nofun

/-- Entries that are put over settled ones are settled, if they can be written. -/
lemma putAll (hacc : Settled acc) (hes : ∀ e ∈ es, Canonical e.2 ∧ e.2.depth < maxDepth) :
    Settled (putAll acc es) := by
  refine ⟨ascending_putAll hacc.ascending es, fun e he => ?_⟩
  rcases mem_of_mem_addProperties (addProperties_overwrite acc es) he with he | he
  · exact hacc.readable e he
  · exact hes e he

/-- Settled entries are read from the text of their object. -/
lemma readWhole_indented (h : Settled es) :
    readWhole (Json.obj es).indented.toList = some (.obj es) := by
  refine Json.readWhole_indented (Json.fits_obj_iff.2 fun e he => ?_)
  obtain ⟨hcanonical, hdepth⟩ := h.readable e he
  have hmax : maxDepth = 9999 + 1 := rfl
  exact ⟨hcanonical.wellFormed, by omega⟩

/-- **An example that is read again has the entries that it was made of.** -/
lemma entriesOf?_indented (h : Settled es) :
    entriesOf? (Json.obj es).indented.toList = some es := by
  have hoverlay : overlay? [] es = some es :=
    overlay?_eq_append (fun e he => (h.readable e he).1) h.ascending
  rw [entriesOf?, h.readWhole_indented, Option.bind_some, readProperties, hoverlay]

end Settled

/-- Entries in two parts. -/
lemma putAll_append (acc es es' : Entries) : putAll acc (es ++ es') = putAll (putAll acc es) es' :=
  List.foldl_append

/-- The entries of all texts are put over each other.

**Proof sketch.** Induction on the texts: putting the entries of one after the other over the first
ones is putting all of them there. -/
lemma overlayTexts_toOption (i : Nat) {acc : Entries} (hacc : Ascending acc)
    (texts : List (List Char)) :
    (overlayTexts i acc texts).toOption =
      (texts.mapM entriesOf?).map fun tables => putAll acc tables.flatten := by
  induction texts generalizing i acc with
  | nil => rfl
  | cons text rest ih =>
    rw [overlayTexts_cons i hacc, List.mapM_cons]
    cases entriesOf? text with
    | none => rfl
    | some es =>
      simp only [ih (i + 1) (ascending_putAll hacc es), Option.bind_eq_bind, Option.bind_some]
      cases rest.mapM entriesOf? with
      | none => rfl
      | some tables => exact congrArg some (putAll_append acc es tables.flatten).symm

/-- **A merged example is made of the entries of all texts.**

**Proof sketch.** The texts are laid over each other by `overlayTexts_toOption`, starting with no
entries. -/
lemma overlaidText_toOption (texts : List (List Char)) :
    (overlaidText texts).toOption = (texts.mapM entriesOf?).map fun tables =>
      (Json.obj (putAll [] tables.flatten)).indented.toList := by
  have hoverlay := overlayTexts_toOption 0 ascending_nil texts
  rw [overlaidText, examples]
  cases hacc : overlayTexts 0 [] texts <;> rw [hacc] at hoverlay
  · rw [Option.map_eq_none_iff.1 hoverlay.symm]
    rfl
  · obtain ⟨tables, htables, rfl⟩ := Option.map_eq_some_iff.1 hoverlay.symm
    rw [htables]
    rfl

section

variable {texts : List (List Char)} {tables : List Entries}

/-- Texts have entries all together or not at all.

**Proof sketch.** Induction on the texts, in both directions. -/
lemma exists_mapM_entriesOf?_iff :
    (∃ tables, texts.mapM entriesOf? = some tables) ↔
      ∀ text ∈ texts, ∃ es, entriesOf? text = some es := by
  simp only [mapM_eq_some_iff]
  constructor
  · rintro ⟨tables, h⟩
    induction h with
    | nil => exact nofun
    | cons hfirst _ ih => exact List.forall_mem_cons.2 ⟨⟨_, hfirst⟩, ih⟩
  · intro h
    induction texts with
    | nil => exact ⟨[], .nil⟩
    | cons text rest ih =>
      obtain ⟨⟨es, hes⟩, hrest⟩ := List.forall_mem_cons.1 h
      obtain ⟨tables, htables⟩ := ih hrest
      exact ⟨es :: tables, .cons hes htables⟩

/-- The entries of texts are settled. -/
lemma settled_of_mapM_entriesOf? (h : texts.mapM entriesOf? = some tables) :
    ∀ es ∈ tables, Settled es := by
  have htables := mapM_eq_some_iff.1 h
  clear h
  induction htables with
  | nil => exact nofun
  | cons hfirst _ ih => exact List.forall_mem_cons.2 ⟨.of_entriesOf? hfirst, ih⟩

/-- What the texts give to a name is decoded to what their entries give to it. -/
lemma decodes_of_mapM_entriesOf? (h : texts.mapM entriesOf? = some tables) (name : String) :
    Decodes (texts.filterMap (member? name)) (tables.filterMap (lookup? · name)) := by
  have hrel : ∀ ⦃text es⦄, entriesOf? text = some es →
      Option.Rel DecodesTo (member? name text) (lookup? es name) :=
    fun _ _ hread => rel_lookup?_of_entriesOf? hread name
  exact List.rel_filterMap hrel (mapM_eq_some_iff.1 h)

/-- Each name gets what the last of the tables that have it gives to it. -/
lemma lookup?_putAll (h : texts.mapM entriesOf? = some tables) (name : String) :
    lookup? (putAll [] tables.flatten) name = (tables.filterMap (lookup? · name)).getLast? := by
  have hall := (addProperties_eq_ok (addProperties_overwrite [] tables.flatten)).2 name
  have hvalues := valuesOf_flatten
    (fun es hes => (settled_of_mapM_entriesOf? h es hes).ascending) name
  rw [declareAll?_overwrite, hvalues] at hall
  rw [← Option.some.inj hall]
  exact Option.or_none

/-- A merged example is settled. -/
lemma settled_putAll (h : texts.mapM entriesOf? = some tables) :
    Settled (putAll [] tables.flatten) := by
  refine Settled.nil.putAll fun e he => ?_
  obtain ⟨es, hes, he⟩ := List.mem_flatten.1 he
  exact (settled_of_mapM_entriesOf? h es hes).readable e he

end

/-! ## Merging in groups -/

/-- A group of entries can be put over each other first. -/
lemma putAll_group (before group behind : Entries) :
    putAll [] (before ++ (putAll [] group ++ behind)) = putAll [] (before ++ (group ++ behind)) := by
  simp only [putAll_append, putAll_putAll (ascending_putAll ascending_nil before)]

/-- **A merged example stands for the texts that were merged.**

**Proof sketch.** The merged text of the group is read back as the entries of the group. Putting
those over the others is putting the entries of its texts there, by `putAll_group`. -/
lemma overlaidText_group (before group behind : List (List Char)) :
    (overlaidText (before ++ (group ++ behind))).toOption =
      (overlaidText group).toOption.bind fun text =>
        (overlaidText (before ++ text :: behind)).toOption := by
  simp only [overlaidText_toOption, List.mapM_append, List.mapM_cons]
  cases hgroup : group.mapM entriesOf? with
  | none => cases before.mapM entriesOf? <;> rfl
  | some tables =>
    have hread := (settled_putAll hgroup).entriesOf?_indented
    cases before.mapM entriesOf? with
    | none => rfl
    | some front =>
      cases behind.mapM entriesOf? with
      | none => simp
      | some back =>
        simp only [hread, Option.bind_eq_bind, Option.bind_some, Option.pure_def, Option.map_some,
          List.flatten_append, List.flatten_cons, putAll_group]

/-! ## What a merged example says -/

/-- **When examples are merged, and to what.** Examples are merged iff each of them is decoded to an
object or to null. The merged text is an object that has the names of all examples, once and in
order, and under each of them the decoded value of the last example that has the name. Examples in
two lists can be merged list by list first: that gives the same text, or fails as well.

**Proof sketch.** All three parts follow from `overlaidText_toOption`: a merge succeeds iff all
texts have entries, its document holds the entries put over each other, and a group may be merged
first by `overlaidText_group`. -/
theorem overlaidText_spec (texts : List (List Char)) :
    ((∃ out, overlaidText texts = .ok out) ↔ ∀ text ∈ texts,
        decoded? text = some .null ∨ ∃ members, decoded? text = some (.obj members)) ∧
      (∀ out, overlaidText texts = .ok out → ∃ es,
        out = (Json.obj es).indented.toList ∧ readWhole out = some (.obj es) ∧ Ascending es ∧
          (∀ name, name ∈ es.map (·.1) ↔ ∃ text ∈ texts, (member? name text).isSome = true) ∧
          ∀ name, lookup? es name = (texts.filterMap (member? name)).getLast?.bind canonical?) ∧
      ∀ xs ys, (overlaidText (xs ++ ys)).toOption =
        (do overlaidText [← overlaidText xs, ← overlaidText ys]).toOption := by
  refine ⟨?_, fun out hout => ?_, fun xs ys => ?_⟩
  · simp only [← exists_entriesOf?_iff, ← exists_mapM_entriesOf?_iff]
    have htext := overlaidText_toOption texts
    cases hout : overlaidText texts <;> rw [hout] at htext
    · rw [Option.map_eq_none_iff.1 htext.symm]
      simp
    · obtain ⟨tables, htables, -⟩ := Option.map_eq_some_iff.1 htext.symm
      exact ⟨fun _ => ⟨tables, htables⟩, fun _ => ⟨_, rfl⟩⟩
  · have htext := overlaidText_toOption texts
    rw [hout] at htext
    obtain ⟨tables, htables, rfl⟩ := Option.map_eq_some_iff.1 htext.symm
    have hsettled := settled_putAll htables
    refine ⟨_, rfl, hsettled.readWhole_indented, hsettled.ascending, fun name => ?_, fun name => ?_⟩
    · have hlength := (decodes_of_mapM_entriesOf? htables name).length_eq
      rw [← Json.isSome_lookup?_iff, lookup?_putAll htables, List.getLast?_isSome,
        ← List.length_pos_iff, ← hlength, List.length_pos_iff]
      simp [Option.isSome_iff_ne_none]
    · rw [lookup?_putAll htables]
      exact eq_bind_of_rel ((decodes_of_mapM_entriesOf? htables name).chosen? .overwrite)
  · have hleft := overlaidText_group [] xs ys
    have hright := fun text => overlaidText_group [text] ys []
    simp only [List.nil_append, List.append_nil, List.singleton_append] at hleft hright
    rw [hleft]
    simp only [toOption_bind, hright]

/-- An example with one member. -/
def single : List Char := "\x7b\"a\":true\x7d".toList

/-- An example that repeats a member. -/
def repeating : List Char := "\x7b\"a\":null,\"a\":false\x7d".toList

/-- Of a repeated member the last one counts, in the last example that has it.

**Proof sketch.** Both texts are read by evaluation. The last member with the name in the last text
gives the value. -/
theorem overlaidText_spec_repeating :
    ∃ out es, overlaidText [single, repeating] = .ok out ∧ readWhole out = some (.obj es) ∧
      lookup? es "a" = some (.bool false) ∧
      (overlaidText ([single] ++ [repeating])).toOption =
        (do overlaidText [← overlaidText [single], ← overlaidText [repeating]]).toOption := by
  have hsingle : readWhole single = some (.obj [("a", .bool true)]) := by rfl
  have hrepeating : readWhole repeating = some (.obj [("a", .null), ("a", .bool false)]) := by rfl
  obtain ⟨hiff, hspec, hgroups⟩ := overlaidText_spec [single, repeating]
  have hdecoded : decoded? single = some (.obj [("a", .bool true)]) ∧
      decoded? repeating = some (.obj [("a", .bool false)]) := by
    rw [decoded?, hsingle, decoded?, hrepeating]
    exact ⟨rfl, rfl⟩
  obtain ⟨out, hout⟩ := hiff.2 (by simp [hdecoded])
  obtain ⟨es, -, hread, -, -, hvalue⟩ := hspec out hout
  have hlast : ([single, repeating].filterMap (member? "a")).getLast? = some (.bool false) := by
    rw [List.filterMap_cons, List.filterMap_cons, member?, member?, hsingle, hrepeating]
    rfl
  refine ⟨out, es, hout, hread, ?_, hgroups [single] [repeating]⟩
  rw [hvalue, hlast]
  rfl

end SchemaKit.Merge
