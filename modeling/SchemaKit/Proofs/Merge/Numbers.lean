import SchemaKit.Proofs.Json.Kept
import SchemaKit.Proofs.Merge.Overlay

/-!
# Numbers in merged documents

Values are decoded before they are merged. A decoded value has the shape of the value that was
written: a place in the one is a place in the other, up to repeated members, of which the last one
counts. So every number in a merged document stands for a number at the same place of the document
that the property, or the member of an example, was taken from. But in between it was a double, and
it has the same value only if it is one of the numbers that a double keeps.

## Main definitions

* `SchemaKit.Json.Step`, `SchemaKit.Json.at?` — places in values.
* `SchemaKit.Merge.property?` — the value that a text gives to a property.

## Main results

* `SchemaKit.Merge.DecodesTo.at?` — decoding keeps places.
* `SchemaKit.Merge.DecodesTo.number` — the numbers in a decoded value.
* `SchemaKit.Merge.number_of_merged` — where the numbers of merged documents come from, and which of
  them keep their values.
-/

namespace SchemaKit

/-! ## Places -/

namespace Json

/-- A step into a value: to a member of an object, of repeated ones the last one, or to an item of
an array. -/
inductive Step where
  | member (name : String)
  | item (position : Nat)

/-- Follows one step. -/
def enter? (v : Json) : Step → Option Json
  | .member name => v.get? name
  | .item i =>
    match v with
    | .arr items => items[i]?
    | _ => none

/-- The part of a value at a place. -/
def at? (v : Json) : List Step → Option Json
  | [] => some v
  | s :: place => (v.enter? s).bind (·.at? place)

variable {v w : Json}

/-- Where no name is repeated, a step to a member leads to the entry of its name. -/
lemma enter?_member {members : List (String × Json)} (h : (members.map (·.1)).Nodup)
    (name : String) : (Json.obj members).enter? (.member name) = lookup? members name :=
  last?_eq_lookup? h name

/-- A step into a well-formed value leads to a well-formed one. -/
lemma WellFormed.enter? (h : v.WellFormed) {s : Step} (hw : v.enter? s = some w) : w.WellFormed := by
  cases v with
  | arr items =>
    cases s with
    | member name => cases hw
    | item i => exact wellFormedItems_iff.1 h w (List.mem_of_getElem? hw)
  | obj members =>
    cases s with
    | member name => exact wellFormedMembers_iff.1 h _ (mem_of_last?_eq_some hw)
    | item i => cases hw
  | null | bool _ | num _ | str _ => cases s <;> cases hw

/-- The parts of a well-formed value are well formed. -/
lemma WellFormed.at? (h : v.WellFormed) {place : List Step} (hw : v.at? place = some w) :
    w.WellFormed := by
  induction place generalizing v with
  | nil =>
    cases hw
    exact h
  | cons s place ih =>
    obtain ⟨u, hu, hrest⟩ := Option.bind_eq_some_iff.1 hw
    exact ih (h.enter? hu) hrest

end Json

namespace Merge

open Json (readWhole lookup? last? canonical? fieldsNamed Numeral)

/-! ## Decoded values -/

/-- An array is decoded item by item.

**Proof sketch.** Induction on the items: they are rounded one by one and settled afterwards. -/
lemma canonical?_arr (items : List Json) :
    canonical? (.arr items) = (items.mapM canonical?).map .arr := by
  have hround : items.mapM canonical? = (Json.roundItems? items).map Json.settle.settleItems := by
    induction items with
    | nil => rfl
    | cons v rest ih =>
      rw [List.mapM_cons, Json.roundItems?, canonical?, ih]
      cases Json.round? v with
      | none => rfl
      | some u => cases Json.roundItems? rest <;> rfl
  rw [hround, canonical?, Json.round?, Option.map_map, Option.map_map]
  rfl

/-- Decoded values stand at the positions of those that were written. -/
lemma Decodes.getElem? {raws vs : List Json} (h : Decodes raws vs) (i : Nat) :
    Option.Rel DecodesTo raws[i]? vs[i]? := by
  induction h generalizing i with
  | nil => exact .none
  | cons hfirst _ ih =>
    cases i with
    | zero => exact .some hfirst
    | succ i => exact ih i

namespace DecodesTo

variable {u v : Json}

/-- A step into a value that was written is a step into the decoded one.

**Proof sketch.** By the kind of value. Items are decoded one by one, and of repeated members the
last one counts on both sides. -/
lemma enter? (h : DecodesTo u v) (s : Json.Step) :
    Option.Rel DecodesTo (u.enter? s) (v.enter? s) := by
  cases u with
  | arr items =>
    rw [DecodesTo, canonical?_arr] at h
    obtain ⟨vs, hvs, rfl⟩ := Option.map_eq_some_iff.1 h
    cases s with
    | member name => exact .none
    | item i => exact Decodes.getElem? (mapM_eq_some_iff.1 hvs) i
  | obj members =>
    obtain ⟨hcanonical, -⟩ := Json.canonical_of_canonical? h
    rw [DecodesTo, canonical?_obj] at h
    obtain ⟨es, hes, rfl⟩ := Option.map_eq_some_iff.1 h
    cases s with
    | member name =>
      cases hcanonical with
      | obj hkeys _ =>
        rw [Json.enter?_member hkeys.nodup]
        exact rel_lookup?_of_overlay? hes name
    | item i => exact .none
  | num n =>
    obtain ⟨w, hw, rfl⟩ := Option.map_eq_some_iff.1 h
    obtain ⟨d, -, rfl⟩ := Option.map_eq_some_iff.1 hw
    cases s <;> exact .none
  | null | bool _ | str _ =>
    cases h
    cases s <;> exact .none

/-- **Decoding keeps places.**

**Proof sketch.** Induction on the place, by `enter?`. -/
lemma at? (h : DecodesTo u v) (place : List Json.Step) :
    Option.Rel DecodesTo (u.at? place) (v.at? place) := by
  induction place generalizing u v with
  | nil => exact .some h
  | cons s place ih =>
    have hstep := h.enter? s
    rw [Json.at?, Json.at?]
    generalize u.enter? s = u' at hstep ⊢
    generalize v.enter? s = v' at hstep ⊢
    cases hstep with
    | none => exact .none
    | some hstep => exact ih hstep

/-- What is decoded to a number was a number, and has passed through a double.

**Proof sketch.** By the kind of value: only a number is decoded to a number. -/
lemma exists_double?_eq {m : Numeral} (h : DecodesTo u (.num m)) :
    ∃ n d, u = .num n ∧ n.double? = some d ∧ m = Numeral.ofDouble d := by
  obtain ⟨w, hw, hsettle⟩ := Option.map_eq_some_iff.1 h
  cases u with
  | num n =>
    obtain ⟨d, hd, rfl⟩ := Option.map_eq_some_iff.1 hw
    cases hsettle
    exact ⟨n, d, rfl, hd, rfl⟩
  | arr items =>
    obtain ⟨us, -, rfl⟩ := Option.map_eq_some_iff.1 hw
    cases hsettle
  | obj members =>
    obtain ⟨us, -, rfl⟩ := Option.map_eq_some_iff.1 hw
    cases hsettle
  | null | bool _ | str _ =>
    cases hw
    cases hsettle

/-- **The numbers in a decoded value.** Each stands for the number at its place in the value that was
written, and it has the same value iff that number is kept.

**Proof sketch.** The places of both values correspond by `at?`, and what stands at the place was a
number that has passed through a double, by `exists_double?_eq`. -/
theorem number (h : DecodesTo u v) (hu : u.WellFormed) {place : List Json.Step} {m : Numeral}
    (hm : v.at? place = some (.num m)) :
    ∃ n, u.at? place = some (.num n) ∧ m = n.rounded ∧ (m.quantity = n.quantity ↔ n.IsKept) := by
  have hplace := h.at? place
  rw [hm] at hplace
  generalize hw : u.at? place = w at hplace
  cases hplace with
  | some hnumber =>
    obtain ⟨n, d, rfl, hd, rfl⟩ := hnumber.exists_double?_eq
    exact ⟨n, rfl, (Numeral.rounded_eq hd).symm,
      Numeral.quantity_ofDouble_eq_iff (hu.at? hw) hd⟩

end DecodesTo

/-! ## Properties -/

/-- Properties as they are written, with those of a further member: an object adds to them, null
clears them. -/
def laterProperties (old : List (String × Json)) (v : Json) : List (String × Json) :=
  match v with
  | .obj members => old ++ members
  | _ => []

/-- The properties of a document as they are written. -/
def writtenProperties (doc : Json) : List (String × Json) :=
  match doc with
  | .obj members => (fieldsNamed members "properties").foldl laterProperties []
  | _ => []

/-- The value that a text gives to a property, as it is written. -/
def property? (name : String) (text : List Char) : Option Json :=
  (readWhole text).bind fun doc => last? (writtenProperties doc) name

/-- Properties are decoded as they are written.

**Proof sketch.** Induction on the values. An object adds its members behind those that are written,
and `null` adds nothing. -/
lemma overlay?_foldl_laterProperties {vs : List Json} {written : List (String × Json)}
    {es r : Entries} (hes : overlay? [] written = some es) (h : vs.foldlM readProperties es = some r) :
    overlay? [] (vs.foldl laterProperties written) = some r := by
  induction vs generalizing written es with
  | nil =>
    cases h
    exact hes
  | cons v rest ih =>
    rw [List.foldlM_cons] at h
    obtain ⟨next, hnext, hrest⟩ := Option.bind_eq_some_iff.1 h
    refine ih ?_ hrest
    cases v with
    | obj members => rw [laterProperties, overlay?_append, hes, Option.bind_some]; exact hnext
    | null => exact hnext
    | bool _ | num _ | str _ | arr _ => cases hnext

/-- What a text gives to a property is decoded to what its fragment gives to it.

**Proof sketch.** A text that is `null` gives nothing. Of the members of an object, those that are
taken for its properties are decoded as they are written, and the last one of a name counts. -/
lemma rel_lookup?_of_ofText? {text : List Char} {f : Fragment} (h : Fragment.ofText? text = some f)
    (name : String) : Option.Rel DecodesTo (property? name text) (lookup? f.properties name) := by
  obtain ⟨doc, hdoc, hread⟩ := Option.bind_eq_some_iff.1 h
  rw [property?, hdoc, Option.bind_some]
  unfold Fragment.read? at hread
  split at hread
  · cases hread
    exact .none
  · split at hread
    · next hproperties _ =>
      cases hread
      exact rel_lookup?_of_overlay? (overlay?_foldl_laterProperties rfl hproperties) name
    · cases hread
  · cases hread

/-- What the texts give to a property is decoded to what their fragments give to it. -/
lemma Reads.decodes {texts : List (List Char)} {fs : List Fragment} (h : Reads texts fs)
    (name : String) : Decodes (texts.filterMap (property? name)) (declared fs name) := by
  have hrel : ∀ ⦃text f⦄, Fragment.ofText? text = some f →
      Option.Rel DecodesTo (property? name text) (lookup? f.properties name) :=
    fun _ _ hread => rel_lookup?_of_ofText? hread name
  exact List.rel_filterMap hrel h

/-- Later properties are well formed if the members that they come from are. -/
lemma wellFormed_laterProperties {vs : List Json} {written : List (String × Json)}
    (hwritten : ∀ m ∈ written, m.2.WellFormed) (hvs : ∀ v ∈ vs, v.WellFormed) :
    ∀ m ∈ vs.foldl laterProperties written, m.2.WellFormed := by
  refine List.foldlRecOn vs laterProperties (motive := fun ms => ∀ m ∈ ms, m.2.WellFormed)
    hwritten fun old hold v hv => ?_
  cases v with
  | obj members =>
    exact List.forall_mem_append.2 ⟨hold, Json.wellFormedMembers_iff.1 (hvs _ hv)⟩
  | null | bool _ | num _ | str _ | arr _ => exact nofun

/-- What a text gives to a property is well formed.

**Proof sketch.** The text is read as a well-formed document, and the value of the property is part
of it. -/
lemma wellFormed_of_property? {name : String} {text : List Char} {raw : Json}
    (h : property? name text = some raw) : raw.WellFormed := by
  obtain ⟨doc, hdoc, hlast⟩ := Option.bind_eq_some_iff.1 h
  have hwf := (Json.fits_of_readWhole hdoc).wellFormed
  cases doc with
  | obj members =>
    have hnone : ∀ m ∈ ([] : List (String × Json)), m.2.WellFormed :=
      List.forall_mem_nil _
    refine wellFormed_laterProperties hnone (fun v hv => ?_) _ (Json.mem_of_last?_eq_some hlast)
    obtain ⟨m, hm, rfl⟩ := List.mem_map.1 hv
    exact Json.wellFormedMembers_iff.1 hwf m (List.mem_of_mem_filter hm)
  | null | bool _ | num _ | str _ | arr _ => cases hlast

/-- What a text gives to a name is well formed. -/
lemma wellFormed_of_member? {name : String} {text : List Char} {raw : Json}
    (h : member? name text = some raw) : raw.WellFormed := by
  obtain ⟨doc, hdoc, hraw⟩ := Option.bind_eq_some_iff.1 h
  exact (Json.fits_of_readWhole hdoc).wellFormed.enter? (s := .member name) hraw

/-- A chosen value is one of the values. -/
lemma Strategy.mem_of_chosen? {s : Strategy} {vs : List Json} {v : Json}
    (h : s.chosen? vs = some v) : v ∈ vs := by
  cases s with
  | keep => exact List.mem_of_head? h
  | overwrite => exact List.mem_of_getLast? h
  | refuse => exact List.mem_of_getLast? h

/-! ## Merged documents -/

/-- The numbers in an entry come from those of the value that was written for it. -/
lemma number_of_rel {raw v : Option Json} (h : Option.Rel DecodesTo raw v)
    (hraw : ∀ u, raw = some u → u.WellFormed) {place : List Json.Step} {m : Numeral}
    (hm : v.bind (·.at? place) = some (.num m)) :
    ∃ u n, raw = some u ∧ u.at? place = some (.num n) ∧ m = n.rounded ∧
      (m.quantity = n.quantity ↔ n.IsKept) := by
  cases h with
  | none => cases hm
  | @some u _ hdecodes =>
    obtain ⟨n, hn, hnumber⟩ := hdecodes.number (hraw u rfl) hm
    exact ⟨u, n, rfl, hn, hnumber⟩

/-- **Where the numbers of merged documents come from.** A number in the schema of a property stands
for a number at the same place of the value that the chosen document gives to the property, and a
number in a merged example for one in the value that the last example with the member gives to it.
It is the shortest literal of the nearest double, and has the value of that number exactly if the
number is kept.

**Proof sketch.** The merged text is read back as its document. The place leads to a value of that
document under the name, which is what the chosen value is decoded to, so the number at the place
comes from a number at the same place. For examples, overwriting chooses. -/
theorem number_of_merged (texts : List (List Char)) :
    (∀ s strict out doc, mergedText s strict texts = .ok out → readWhole out = some doc →
        ∀ name place m, doc.at? (.member "properties" :: .member name :: place) = some (.num m) →
          ∃ u n, s.chosen? (texts.filterMap (property? name)) = some u ∧
            u.at? place = some (.num n) ∧ m = n.rounded ∧
            (m.quantity = n.quantity ↔ n.IsKept)) ∧
      ∀ out doc, overlaidText texts = .ok out → readWhole out = some doc →
        ∀ name place m, doc.at? (.member name :: place) = some (.num m) →
          ∃ u n, (texts.filterMap (member? name)).getLast? = some u ∧
            u.at? place = some (.num n) ∧ m = n.rounded ∧
            (m.quantity = n.quantity ↔ n.IsKept) := by
  constructor
  · intro s strict out doc hout hread name place m hm
    rcases eq_or_ne texts [] with rfl | hne
    · -- nothing is merged to the empty object
      obtain rfl : (Json.obj []).indented.toList = out := Except.ok.inj hout
      rw [Settled.nil.readWhole_indented] at hread
      obtain rfl := Option.some.inj hread
      cases hm
    · obtain ⟨fs, f, hreads, hunites, rfl⟩ := (mergedText_eq_ok_iff hne).1 hout
      have hsound : f.Sound := sound_blank.gather? (hreads.gather?_eq_some_iff.2 hunites)
      rw [Json.readWhole_indented (hsound.fits strict)] at hread
      obtain rfl := Option.some.inj hread
      have hproperties : (f.document strict).enter? (.member "properties") =
          some (.obj f.properties) := by
        rw [document_eq, Json.enter?_member (Validation.pairwise_keys_objectMembers _ _ _).nodup]
        cases strict <;> cases f.required <;> rfl
      rw [Json.at?, hproperties, Option.bind_some, Json.at?,
        Json.enter?_member hsound.properties.nodup] at hm
      have hrel := (hreads.decodes name).chosen? s
      rw [← hunites.value] at hrel
      refine number_of_rel hrel (fun u hu => ?_) hm
      obtain ⟨text, -, htext⟩ := List.mem_filterMap.1 (Strategy.mem_of_chosen? hu)
      exact wellFormed_of_property? htext
  · intro out doc hout hread name place m hm
    have htext := overlaidText_toOption texts
    rw [hout] at htext
    obtain ⟨tables, htables, rfl⟩ := Option.map_eq_some_iff.1 htext.symm
    have hsettled := settled_putAll htables
    rw [hsettled.readWhole_indented] at hread
    obtain rfl := Option.some.inj hread
    rw [Json.at?, Json.enter?_member hsettled.ascending.nodup, lookup?_putAll htables] at hm
    have hrel := (decodes_of_mapM_entriesOf? htables name).chosen? .overwrite
    refine number_of_rel hrel (fun u hu => ?_) hm
    obtain ⟨text, -, htext⟩ := List.mem_filterMap.1 (Strategy.mem_of_chosen? hu)
    exact wellFormed_of_member? htext

/-! ## A number that is lost -/

/-- A property with a bound. -/
def bounded (bound : Numeral) : Entries := [("a", .obj [("maximum", .num bound)])]

/-- The text of a document with such a property. The bound is the least positive integer that is no
double. -/
def lostBound : List Char :=
  "\x7b\"properties\":\x7b\"a\":\x7b\"maximum\":9007199254740993\x7d\x7d\x7d".toList

/-- The bound as it is written. -/
def writtenBound : Numeral := ⟨false, "9007199254740993".toList, none, none⟩

/-- The bound as it comes out. -/
def roundedBound : Numeral := ⟨false, "9007199254740992".toList, none, none⟩

/-- The document that is read from the text. -/
lemma readWhole_lostBound :
    readWhole lostBound = some (.obj [("properties", .obj (bounded writtenBound))]) := by rfl

/-- The bound comes out as another number. -/
lemma quantity_roundedBound_ne : roundedBound.quantity ≠ writtenBound.quantity := by
  have hrounded : roundedBound.int? = some 9007199254740992 := by rfl
  have hwritten : writtenBound.int? = some 9007199254740993 := by rfl
  rw [Numeral.quantity_of_int? hrounded, Numeral.quantity_of_int? hwritten]
  norm_num

/-- The properties as they are decoded. -/
lemma overlay?_bounded : overlay? [] (bounded writtenBound) = some (bounded roundedBound) := by
  have hdouble : writtenBound.double? = some ⟨false, some ⟨4503599627370496, 1⟩⟩ := by rfl
  have hliteral : Numeral.ofDouble ⟨false, some ⟨4503599627370496, 1⟩⟩ = roundedBound := by rfl
  rw [bounded, overlay?, canonical?_obj, overlay?, canonical?, Json.round?, hdouble,
    Option.map_some, hliteral]
  rfl

/-- The text merged alone as a schema, and as an example.

**Proof sketch.** Both merges are evaluated step by step on the one text. -/
lemma merged_lostBound :
    (∃ out, mergedText .keep false [lostBound] = .ok out ∧
      readWhole out = some (.obj [("properties", .obj (bounded roundedBound)),
        ("type", .str "object")])) ∧
      ∃ out, overlaidText [lostBound] = .ok out ∧
        readWhole out = some (.obj [("properties", .obj (bounded roundedBound))]) := by
  constructor
  · have hproperties : fieldsNamed [("properties", .obj (bounded writtenBound))] "properties" =
        [.obj (bounded writtenBound)] := by rfl
    have hrequired : fieldsNamed [("properties", .obj (bounded writtenBound))] "required" = [] := by
      rfl
    have hfragment : Fragment.ofText? lostBound = some ⟨bounded roundedBound, []⟩ := by
      rw [Fragment.ofText?, readWhole_lostBound, Option.bind_some, Fragment.read?, hproperties,
        hrequired, List.foldlM_cons, readProperties, overlay?_bounded]
      rfl
    have hgather : gather? .keep .blank [lostBound] = some ⟨bounded roundedBound, []⟩ := by
      rw [gather?, List.foldlM_cons, hfragment]
      rfl
    have hsound : (⟨bounded roundedBound, []⟩ : Fragment).Sound := sound_blank.gather? hgather
    exact ⟨_, mergedText_eq_ok (List.cons_ne_nil _ _) hgather,
      Json.readWhole_indented (hsound.fits false)⟩
  · have hentries : entriesOf? lostBound =
        some [("properties", .obj (bounded roundedBound))] := by
      rw [entriesOf?, readWhole_lostBound, Option.bind_some, readProperties, overlay?, canonical?_obj,
        overlay?_bounded]
      rfl
    have htables : [lostBound].mapM entriesOf? =
        some [[("properties", .obj (bounded roundedBound))]] := by
      rw [List.mapM_cons, hentries]
      rfl
    have htext := overlaidText_toOption [lostBound]
    rw [htables] at htext
    cases hout : overlaidText [lostBound] <;> rw [hout] at htext
    · cases htext
    · obtain rfl := Option.some.inj htext
      exact ⟨_, rfl, (settled_putAll htables).readWhole_indented⟩

/-- In both merges the bound comes from the bound that was written.

**Proof sketch.** The two texts are those of `merged_lostBound`, in which the bound is found by
evaluation. -/
theorem number_of_merged_lostBound :
    (∃ out doc u n, mergedText .keep false [lostBound] = .ok out ∧ readWhole out = some doc ∧
        doc.at? [.member "properties", .member "a", .member "maximum"] =
          some (.num roundedBound) ∧
        Strategy.keep.chosen? ([lostBound].filterMap (property? "a")) = some u ∧
        u.at? [.member "maximum"] = some (.num n) ∧ roundedBound = n.rounded ∧
        (roundedBound.quantity = n.quantity ↔ n.IsKept)) ∧
      ∃ out doc u n, overlaidText [lostBound] = .ok out ∧ readWhole out = some doc ∧
        doc.at? [.member "properties", .member "a", .member "maximum"] =
          some (.num roundedBound) ∧
        ([lostBound].filterMap (member? "properties")).getLast? = some u ∧
        u.at? [.member "a", .member "maximum"] = some (.num n) ∧ roundedBound = n.rounded ∧
        (roundedBound.quantity = n.quantity ↔ n.IsKept) := by
  obtain ⟨⟨out, hout, hread⟩, out', hout', hread'⟩ := merged_lostBound
  obtain ⟨hschemas, hexamples⟩ := number_of_merged [lostBound]
  obtain ⟨u, n, hsource⟩ := hschemas _ _ _ _ hout hread "a" [.member "maximum"] roundedBound rfl
  obtain ⟨u', n', hsource'⟩ :=
    hexamples _ _ hout' hread' "properties" [.member "a", .member "maximum"] roundedBound rfl
  exact ⟨⟨_, _, u, n, hout, hread, rfl, hsource⟩, _, _, u', n', hout', hread', rfl, hsource'⟩

/-- Numbers in merged documents need not have the values that they had before, neither in schemas
nor in examples.

**Proof sketch.** The bound that was written is no double, and the merged bound is the nearest one. -/
theorem not_forall_quantity_eq_of_merged :
    (¬∀ texts s strict out doc, mergedText s strict texts = .ok out → readWhole out = some doc →
        ∀ name place m, doc.at? (.member "properties" :: .member name :: place) = some (.num m) →
          ∃ u n, s.chosen? (texts.filterMap (property? name)) = some u ∧
            u.at? place = some (.num n) ∧ m.quantity = n.quantity) ∧
      ¬∀ texts out doc, overlaidText texts = .ok out → readWhole out = some doc →
        ∀ name place m, doc.at? (.member name :: place) = some (.num m) →
          ∃ u n, (texts.filterMap (member? name)).getLast? = some u ∧
            u.at? place = some (.num n) ∧ m.quantity = n.quantity := by
  obtain ⟨⟨out, hout, hread⟩, out', hout', hread'⟩ := merged_lostBound
  constructor
  · intro h
    obtain ⟨u, n, hu, hn, hsame⟩ :=
      h _ _ _ _ _ hout hread "a" [.member "maximum"] roundedBound rfl
    rw [List.filterMap_cons, property?, readWhole_lostBound] at hu
    cases hu
    cases hn
    exact quantity_roundedBound_ne hsame
  · intro h
    obtain ⟨u, n, hu, hn, hsame⟩ :=
      h _ _ _ hout' hread' "properties" [.member "a", .member "maximum"] roundedBound rfl
    rw [List.filterMap_cons, member?, readWhole_lostBound] at hu
    cases hu
    cases hn
    exact quantity_roundedBound_ne hsame

end Merge

end SchemaKit
