import SchemaKit.Proofs.Json.Canonical
import SchemaKit.Proofs.Schema.Encoding
import SchemaKit.Schema.Reader
import SchemaKit.Schema.Refs

/-!
# Proper schemas

The further members of a schema are those whose names are no keys, and its data are JSON values that are
not nested too deep. A schema is proper if that holds at every depth. Whatever is read from a text is
proper, and redirecting references keeps it so. In particular what is read can be written.

## Main definitions

* `SchemaKit.Schema.Proper` — further members have other names than keys, and data are well formed and
  leave enough room for the containers around them.

## Main results

* `SchemaKit.Schema.Proper.fits` — the document of a proper schema is well formed and not too deep.
* `SchemaKit.Schema.proper_of_readText?` — schemas that are read are proper.
* `SchemaKit.Schema.Proper.mapRefs` — redirecting references keeps schemas proper.
* `SchemaKit.Schema.Proper.isEncodable` — proper schemas can be written.

## Design

A place without anything is written as an object without members, which is one container deeper than
the null that it was read from. So a schema needs at most one container more than the value that it was
read from, and nothing is gained by counting exactly.
-/

namespace SchemaKit

namespace Schema

open Json (Fits)

mutual

/-- With room for a number of containers: at every depth, further members have other names than keys,
and data and further members fit into the room that is left. -/
inductive Proper : Nat → Schema → Prop
  | mk {room : Nat} {parts : List (Key × Part)} {extra : List (String × Json)}
      (hparts : ∀ e ∈ parts, Part.Proper room e.2)
      (hextra : ∀ m ∈ extra, Key.isName m.1 = false ∧ Fits room m.2) :
      Proper (room + 1) (.mk parts extra)

/-- What a key says is proper. -/
inductive Part.Proper : Nat → Part → Prop
  | data {room : Nat} {v : Json} (hv : Fits room v) : Part.Proper room (.data v)
  | one {room : Nat} {s : Sub} (hs : Sub.Proper room s) : Part.Proper room (.one s)
  | list {room : Nat} {ss : List Sub} (hss : ∀ s ∈ ss, Sub.Proper room s) :
      Part.Proper (room + 1) (.list ss)
  | named {room : Nat} {es : List (String × Sub)} (hes : ∀ e ∈ es, Sub.Proper room e.2) :
      Part.Proper (room + 1) (.named es)

/-- What stands at a place is proper. -/
inductive Sub.Proper : Nat → Sub → Prop
  | schema {room : Nat} {s : Schema} (hs : Schema.Proper room s) : Sub.Proper room (.schema s)
  | truth {room : Nat} (b : Bool) : Sub.Proper room (.truth b)
  | nothing {room : Nat} : Sub.Proper (room + 1) .nothing
  | names {room : Nat} (ns : List String) : Sub.Proper (room + 1) (.names ns)

end

/-! ## The document of a proper schema -/

mutual

/-- **The document of a proper schema is well formed and not too deep.**

**Proof sketch.** By induction on the schema. Its members fit into the room that is left inside the
object: those of its parts by induction, and the further ones as they are. -/
theorem Proper.fits : ∀ {room : Nat} {s : Schema}, s.Proper room → Fits room s.json
  | _, .mk parts extra, .mk hparts hextra => by
    refine Json.fits_obj_iff.2 fun m hm => ?_
    rcases List.mem_append.1 hm with hm | hm
    · exact fits_partMembers hparts m hm
    · exact (hextra m hm).2

/-- The members of proper parts fit. -/
theorem fits_partMembers : ∀ {room : Nat} {parts : List (Key × Part)},
    (∀ e ∈ parts, e.2.Proper room) → ∀ m ∈ partMembers parts, Fits room m.2
  | _, [], _ => nofun
  | _, (k, p) :: rest, h => by
    rw [List.forall_mem_cons] at h
    rw [partMembers, List.forall_mem_cons]
    exact ⟨Part.Proper.fits h.1, fits_partMembers h.2⟩

/-- The value of a proper part fits. -/
theorem Part.Proper.fits : ∀ {room : Nat} {p : Part}, p.Proper room → Fits room p.json
  | _, .data _, .data hv => hv
  | _, .one _, .one hs => Sub.Proper.fits hs
  | _, .list _, .list hss => Json.fits_arr_iff.2 (fits_subItems hss)
  | _, .named _, .named hes => Json.fits_obj_iff.2 (fits_subMembers hes)

/-- The value at a proper place fits. -/
theorem Sub.Proper.fits : ∀ {room : Nat} {s : Sub}, s.Proper room → Fits room s.json
  | _, .schema s, .schema hs => Schema.Proper.fits hs
  | _, .truth b, _ => ⟨trivial, Nat.zero_le _⟩
  | _, .nothing, .nothing => Json.fits_obj_iff.2 nofun
  | _, .names ns, .names _ => by
    refine Json.fits_arr_iff.2 fun v hv => ?_
    obtain ⟨n, -, rfl⟩ := List.mem_map.1 hv
    exact ⟨trivial, Nat.zero_le _⟩

/-- The values at proper places fit. -/
theorem fits_subItems : ∀ {room : Nat} {ss : List Sub}, (∀ s ∈ ss, s.Proper room) →
    ∀ v ∈ subItems ss, Fits room v
  | _, [], _ => nofun
  | _, s :: rest, h => by
    rw [List.forall_mem_cons] at h
    rw [subItems, List.forall_mem_cons]
    exact ⟨Sub.Proper.fits h.1, fits_subItems h.2⟩

/-- The values at proper named places fit. -/
theorem fits_subMembers : ∀ {room : Nat} {es : List (String × Sub)}, (∀ e ∈ es, e.2.Proper room) →
    ∀ m ∈ subMembers es, Fits room m.2
  | _, [], _ => nofun
  | _, (k, s) :: rest, h => by
    rw [List.forall_mem_cons] at h
    rw [subMembers, List.forall_mem_cons]
    exact ⟨Sub.Proper.fits h.1, fits_subMembers h.2⟩

end

/-- **Proper schemas can be written**, if they need no more room than a text has, and a container more
for a null that may stand in it. -/
lemma Proper.isEncodable {room : Nat} {s : Schema} (h : s.Proper room)
    (hroom : room ≤ Json.maxDepth + 1) : s.isEncodable = true :=
  isEncodable_of_fits ⟨h.fits.wellFormed, h.fits.depth_le.trans hroom⟩

/-! ## Changing parts -/

/-- The document without any keys is proper. -/
lemma proper_blank {room : Nat} : blank.Proper (room + 1) := .mk nofun nofun

section

variable {s : Schema} {k : Key} {room : Nat}

/-- The parts of a proper schema are proper. -/
lemma Proper.parts (h : s.Proper (room + 1)) : ∀ e ∈ s.parts, e.2.Proper room := by
  cases h with
  | mk hparts _ => exact hparts

/-- The further members of a proper schema. -/
lemma Proper.extra (h : s.Proper (room + 1)) :
    ∀ m ∈ s.extra, Key.isName m.1 = false ∧ Fits room m.2 := by
  cases h with
  | mk _ hextra => exact hextra

/-- What a key of a proper schema says is proper. -/
lemma Proper.part? (h : s.Proper (room + 1)) {p : Part} (hp : s.part? k = some p) :
    p.Proper room := by
  obtain ⟨e, he, rfl⟩ := Option.map_eq_some_iff.1 hp
  exact h.parts e (List.mem_of_find?_eq_some he)

/-- The part that is put in its place, and parts that were there.

**Proof sketch.** Induction on the parts, by the place where the key belongs. -/
lemma mem_of_mem_insertPart {p : Part} {parts : List (Key × Part)} {e : Key × Part}
    (h : e ∈ insertPart k p parts) : e = (k, p) ∨ e ∈ parts := by
  induction parts with
  | nil => exact .inl (List.mem_singleton.1 h)
  | cons e' rest ih =>
    unfold insertPart at h
    split_ifs at h
    · exact (List.mem_cons.1 h).imp_right (List.mem_cons_of_mem _)
    · exact List.mem_cons.1 h
    · rcases List.mem_cons.1 h with rfl | h
      · exact .inr List.mem_cons_self
      · exact (ih h).imp_right (List.mem_cons_of_mem _)

/-- A proper part may be put into a proper schema. -/
lemma Proper.put (h : s.Proper (room + 1)) {p : Part} (hp : p.Proper room) :
    (s.put k p).Proper (room + 1) := by
  refine .mk (fun e he => ?_) h.extra
  rcases mem_of_mem_insertPart he with rfl | he
  · exact hp
  · exact h.parts e he

/-- A part may be dropped. -/
lemma Proper.drop (h : s.Proper room) : (s.drop k).Proper room := by
  cases h with
  | mk hparts hextra => exact .mk (fun e he => hparts e (List.mem_filter.1 he).1) hextra

/-- A part may be set. -/
lemma Proper.set (h : s.Proper (room + 1)) {p? : Option Part}
    (hp : ∀ p, p? = some p → p.Proper room) : (s.set k p?).Proper (room + 1) := by
  cases p? with
  | none => exact h.drop
  | some p => exact h.put (hp p rfl)

/-- The schema place of a key. -/
lemma Proper.sub? (h : s.Proper (room + 1)) {sub : Sub} (hsub : s.sub? k = some sub) :
    sub.Proper room := by
  unfold Schema.sub? at hsub
  split at hsub
  · next sub' hpart =>
    cases hsub
    cases h.part? hpart with
    | one hs => exact hs
  · cases hsub

/-- The list of schemas of a key. -/
lemma Proper.subs (h : s.Proper (room + 2)) : ∀ sub ∈ s.subs k, sub.Proper room := by
  unfold Schema.subs
  split
  · next ss hpart =>
    cases h.part? hpart with
    | list hss => exact hss
  · exact nofun

/-- The schemas by name of a key. -/
lemma Proper.entries (h : s.Proper (room + 2)) : ∀ e ∈ s.entries k, e.2.Proper room := by
  unfold Schema.entries
  split
  · next es hpart =>
    cases h.part? hpart with
    | named hes => exact hes
  · exact nofun

end

/-- A schema that stands by name in a proper schema is proper, and needs no more room.

**Proof sketch.** The part under the key is proper, since it is one of the parts of the schema. -/
lemma Proper.of_mem_entries {room : Nat} {s t : Schema} {k : Key} {n : String} (h : s.Proper room)
    (ht : (n, Sub.schema t) ∈ s.entries k) : ∃ r ≤ room, t.Proper r := by
  unfold Schema.entries at ht
  split at ht
  · next es hpart =>
    cases h with
    | mk hparts hextra =>
      cases (Proper.mk hparts hextra).part? hpart with
      | @named r _ hes =>
        cases hes _ ht with
        | schema hproper => exact ⟨r, by omega, hproper⟩
  · cases ht

/-- Entries stay proper when a proper one is written. -/
lemma proper_insertSorted {room : Nat} {name : String} {sub : Sub} {es : List (String × Sub)}
    (hsub : sub.Proper room) (hes : ∀ e ∈ es, e.2.Proper room) :
    ∀ e ∈ Json.insertSorted name sub es, e.2.Proper room := by
  intro e he
  rcases Json.mem_of_mem_insertSorted he with rfl | he
  · exact hsub
  · exact hes e he

/-! ## Schemas that are read -/

/-- A text fits anywhere. -/
lemma fits_str (room : Nat) (s : String) : Fits room (.str s) := ⟨trivial, Nat.zero_le _⟩

/-- A well-formed number fits anywhere. -/
lemma fits_num {n : Json.Numeral} (room : Nat) (hn : n.WellFormed) : Fits room (.num n) :=
  ⟨hn, Nat.zero_le _⟩

/-- A list of texts takes one container. -/
lemma fits_texts {room : Nat} (vs : List Json) (h : ∀ v ∈ vs, ∃ s, v = .str s) :
    Fits (room + 1) (.arr vs) := by
  refine Json.fits_arr_iff.2 fun v hv => ?_
  obtain ⟨s, rfl⟩ := h v hv
  exact fits_str room s

/-- Lists of texts are read as lists of texts.

**Proof sketch.** By the cases of the reading: `null` is read as the empty text. -/
lemma mem_textItems? {vs ts : List Json} (h : textItems? vs = some ts) :
    ∀ v ∈ ts, ∃ s, v = .str s := by
  fun_induction textItems? vs generalizing ts with
  | case1 =>
    cases h
    exact nofun
  | case2 s rest ih =>
    obtain ⟨us, hus, rfl⟩ := Option.map_eq_some_iff.1 h
    exact List.forall_mem_cons.2 ⟨⟨s, rfl⟩, ih hus⟩
  | case3 rest ih =>
    obtain ⟨us, hus, rfl⟩ := Option.map_eq_some_iff.1 h
    exact List.forall_mem_cons.2 ⟨⟨"", rfl⟩, ih hus⟩
  | case4 => cases h

/-- Lists of kinds are read as lists of texts. -/
lemma mem_kindItems? {vs ts : List Json} (h : kindItems? vs = some ts) :
    ∀ v ∈ ts, ∃ s, v = .str s := by
  fun_induction kindItems? vs generalizing ts with
  | case1 =>
    cases h
    exact nofun
  | case2 s rest _ ih =>
    obtain ⟨us, hus, rfl⟩ := Option.map_eq_some_iff.1 h
    exact List.forall_mem_cons.2 ⟨⟨s, rfl⟩, ih hus⟩
  | case3 => cases h
  | case4 => cases h

/-- What a change puts in place fits. -/
def Change.Fits (room : Nat) : Change → Prop
  | .set v => Json.Fits room v
  | _ => True

/-- A list that is put in place fits. -/
lemma Change.fits_ofList {room : Nat} {vs : List Json} (h : Json.Fits room (.arr vs)) :
    (Change.ofList vs).Fits room := by
  unfold Change.ofList
  split
  · trivial
  · exact h

/-- **What a member says about plain data fits**, if the member is not too deep.

**Proof sketch.** By the form of the data. Decoding makes a value at most as deep as it was, and all
other forms are flat. -/
lemma fits_change? {room : Nat} {f : Form} {v : Json} {c : Change} (hdepth : v.depth ≤ room)
    (h : change? f v = some c) : c.Fits (room + 1) := by
  unfold change? at h
  split at h
  · obtain ⟨w, hw, rfl⟩ := Option.map_eq_some_iff.1 h
    obtain ⟨hcanonical, hle⟩ := Json.canonical_of_canonical? hw
    exact ⟨hcanonical.wellFormed, hle.trans (hdepth.trans (Nat.le_succ room))⟩
  · cases h
    trivial
  · cases h
    trivial
  · cases h
    exact fits_str _ _
  · cases h
    exact ⟨trivial, Nat.zero_le _⟩
  · obtain ⟨d, hd, rfl⟩ := Option.map_eq_some_iff.1 h
    exact fits_num _ (Json.Numeral.wellFormed_ofDouble (Json.Numeral.valid_of_double? hd))
  · obtain ⟨i, -, rfl⟩ := Option.map_eq_some_iff.1 h
    exact fits_num _ (Json.Numeral.wellFormed_ofInt i)
  · obtain ⟨i, -, rfl⟩ := Option.map_eq_some_iff.1 h
    split
    · trivial
    · exact fits_num _ (Json.Numeral.wellFormed_ofInt i)
  · obtain ⟨ts, hts, rfl⟩ := Option.map_eq_some_iff.1 h
    exact Change.fits_ofList (fits_texts ts (mem_textItems? hts))
  · split at h
    · cases h
      exact fits_str _ _
    · cases h
  · obtain ⟨ts, hts, rfl⟩ := Option.map_eq_some_iff.1 h
    exact fits_texts ts (mem_kindItems? hts)
  · next vs =>
    obtain ⟨us, hus, rfl⟩ := Option.map_eq_some_iff.1 h
    refine Change.fits_ofList (Json.fits_arr_iff.2 fun w hw => ?_)
    rw [← Json.settleItems_eq_map] at hw
    obtain ⟨hcanonical, hle⟩ := Json.canonical_settleItems hus w hw
    rw [Json.depth] at hdepth
    exact ⟨hcanonical.wellFormed, hle.trans (by omega)⟩
  · cases h

/-- A change keeps a schema proper. -/
lemma Proper.apply {room : Nat} {s : Schema} (h : s.Proper (room + 1)) {k : Key} {c : Change}
    (hc : c.Fits room) : (s.apply k c).Proper (room + 1) := by
  cases c with
  | keep => exact h
  | remove => exact h.drop
  | set v => exact h.put (.data hc)

/-- Further members that are read have other names than keys, and fit.

**Proof sketch.** By induction on the members with other names, which are put one by one over what was
there before. -/
lemma proper_readExtra? {room : Nat} {old members es : List (String × Json)}
    (hdepth : ∀ m ∈ members, m.2.depth ≤ room) (h : readExtra? old members = some es)
    (hold : ∀ m ∈ old, Key.isName m.1 = false ∧ Fits room m.2) :
    ∀ m ∈ es, Key.isName m.1 = false ∧ Fits room m.2 := by
  have hnames : ∀ m ∈ Json.sortLast (members.filter fun m => !Key.isName m.1),
      Key.isName m.1 = false ∧ m.2.depth ≤ room := by
    intro m hm
    obtain ⟨hmem, hname⟩ := List.mem_filter.1 (Json.mem_of_mem_sortLast hm)
    exact ⟨by simpa using hname, hdepth m hmem⟩
  unfold readExtra? at h
  generalize Json.sortLast (members.filter fun m => !Key.isName m.1) = ms at h hnames
  induction ms generalizing old with
  | nil =>
    cases h
    exact hold
  | cons m rest ih =>
    rw [List.forall_mem_cons] at hnames
    rw [List.foldlM_cons] at h
    obtain ⟨next, hnext, hrest⟩ := Option.bind_eq_some_iff.1 h
    obtain ⟨v, hv, rfl⟩ := Option.map_eq_some_iff.1 hnext
    obtain ⟨hcanonical, hle⟩ := Json.canonical_of_canonical? hv
    refine ih (fun m' hm' => ?_) hrest hnames.2
    rcases Json.mem_of_mem_insertSorted hm' with rfl | hm'
    · exact ⟨hnames.1.1, hcanonical.wellFormed, hle.trans hnames.1.2⟩
    · exact hold m' hm'

/-- The schema that stood at a proper place. -/
lemma proper_before {room : Nat} {old : Option Sub} (h : ∀ s, old = some s → s.Proper (room + 1)) :
    (Sub.before old).Proper (room + 1) := by
  unfold Sub.before
  split
  · next s =>
    cases h _ rfl with
    | schema hs => exact hs
  · exact proper_blank

/-- A list part of proper schemas is proper. -/
lemma proper_listPart {room : Nat} {ss : List Sub} (h : ∀ s ∈ ss, s.Proper room) :
    ∀ p, listPart ss = some p → p.Proper (room + 1) := by
  intro p hp
  unfold listPart at hp
  split at hp <;> cases hp
  exact .list h

/-- A part of proper schemas by name is proper. -/
lemma proper_namedPart {room : Nat} {es : List (String × Sub)} (h : ∀ e ∈ es, e.2.Proper room) :
    ∀ p, namedPart es = some p → p.Proper (room + 1) := by
  intro p hp
  unfold namedPart at hp
  split at hp <;> cases hp
  exact .named h

/-- A container that is not too deep leaves room for what is inside of it. -/
lemma exists_room {v : Json} {n room : Nat} (h : v.depth ≤ room) (hv : v.depth = n + 1) :
    ∃ r, room = r + 1 ∧ n ≤ r := ⟨room - 1, by omega, by omega⟩

mutual

/-- The members of a document are read over a proper schema to a proper schema.

**Proof sketch.** Member by member. Plain data are changed as `fits_change?` says; for the other forms
of keys the schemas below them are read over those that were there, which were proper as well. -/
theorem proper_readMembers : ∀ {room : Nat} {members : List (String × Json)} {s t : Schema},
    (∀ m ∈ members, m.2.depth ≤ room) → readMembers members s = some t → s.Proper (room + 2) →
      t.Proper (room + 2)
  | _, [], s, t, _, h, hs => by
    rw [readMembers] at h
    cases h
    exact hs
  | room, (name, v) :: rest, s, t, hdepth, h, hs => by
    rw [List.forall_mem_cons] at hdepth
    rw [readMembers] at h
    split at h
    · exact proper_readMembers hdepth.2 h hs
    · next k _ =>
      dsimp only at h
      split at h
      · next next hnext =>
        refine proper_readMembers hdepth.2 h ?_
        clear h
        split at hnext
        · obtain ⟨c, hc, rfl⟩ := Option.map_eq_some_iff.1 hnext
          exact hs.apply (fits_change? hdepth.1 hc)
        · split at hnext
          · cases hnext
            exact hs.drop
          · split at hnext
            · obtain ⟨sub, hsub, rfl⟩ := Option.map_eq_some_iff.1 hnext
              exact hs.put (.one (proper_readSub hdepth.1 hsub fun _ hold => hs.sub? hold))
            · split at hnext
              · obtain ⟨ss, hss, rfl⟩ := Option.map_eq_some_iff.1 hnext
                exact hs.put (.list (proper_readSubs hdepth.1 hss hs.subs))
              · obtain ⟨sub, hsub, rfl⟩ := Option.map_eq_some_iff.1 hnext
                exact hs.put (.one (proper_readSub hdepth.1 hsub fun _ hold => hs.sub? hold))
            · obtain ⟨ss, hss, rfl⟩ := Option.map_eq_some_iff.1 hnext
              exact hs.set (proper_listPart (proper_readSubs hdepth.1 hss hs.subs))
            · obtain ⟨es, hes, rfl⟩ := Option.map_eq_some_iff.1 hnext
              exact hs.set (proper_namedPart (proper_readDependent hdepth.1 hes hs.entries))
            · obtain ⟨es, hes, rfl⟩ := Option.map_eq_some_iff.1 hnext
              exact hs.set (proper_namedPart (proper_readNamed hdepth.1 hes hs.entries))
      · cases h

/-- A value is read to something proper.

**Proof sketch.** By recursion over the value. An object is read member by member into a proper
schema, with one container less of room, and further members are put beside them. -/
theorem proper_readSub : ∀ {room : Nat} {v : Json} {old : Option Sub} {sub : Sub},
    v.depth ≤ room → readSub old v = some sub → (∀ s, old = some s → s.Proper (room + 1)) →
      sub.Proper (room + 1)
  | _, .null, old, sub, _, h, _ => by
    rw [readSub] at h
    cases h
    exact .nothing
  | _, .bool b, old, sub, _, h, _ => by
    rw [readSub] at h
    cases h
    exact .truth b
  | room, .obj members, old, sub, hdepth, h, hold => by
    obtain ⟨r, rfl, hle⟩ := exists_room hdepth rfl
    rw [readSub] at h
    split at h
    · cases h
    · next s hs =>
      obtain ⟨es, hes, rfl⟩ := Option.map_eq_some_iff.1 h
      have hmembers := Json.depthMembers_le_iff.1 hle
      have hproper := proper_readMembers hmembers hs (proper_before hold)
      have hdepth' : ∀ m ∈ members, m.2.depth ≤ r + 1 := fun m hm => (hmembers m hm).trans (by omega)
      exact .schema (.mk hproper.parts (proper_readExtra? hdepth' hes hproper.extra))
  | _, .num n, old, sub, _, h, _ => by
    rw [readSub] at h
    · cases h
    all_goals exact nofun
  | _, .str s, old, sub, _, h, _ => by
    rw [readSub] at h
    · cases h
    all_goals exact nofun
  | _, .arr items, old, sub, _, h, _ => by
    rw [readSub] at h
    · cases h
    all_goals exact nofun

/-- A list is read to proper schemas. -/
theorem proper_readSubs {room : Nat} {v : Json} {old ss : List Sub} (hdepth : v.depth ≤ room)
    (h : readSubs old v = some ss) (hold : ∀ s ∈ old, s.Proper room) : ∀ s ∈ ss, s.Proper room := by
  match v, hdepth, h with
  | .arr items, hdepth, h =>
    obtain ⟨r, rfl, hle⟩ := exists_room hdepth rfl
    rw [readSubs] at h
    exact proper_readItems (Json.depthItems_le_iff.1 hle) h hold

/-- Item by item.

**Proof sketch.** By recursion over the items: each is read over the one that stood at its place. -/
theorem proper_readItems : ∀ {room : Nat} {items : List Json} {old ss : List Sub},
    (∀ v ∈ items, v.depth ≤ room) → readItems old items = some ss →
      (∀ s ∈ old, s.Proper (room + 1)) → ∀ s ∈ ss, s.Proper (room + 1)
  | _, [], old, ss, _, h, _ => by
    rw [readItems] at h
    cases h
    exact nofun
  | _, v :: rest, old, ss, hdepth, h, hold => by
    rw [List.forall_mem_cons] at hdepth
    rw [readItems] at h
    split at h
    · next s ss hs hss =>
      cases h
      refine List.forall_mem_cons.2 ⟨proper_readSub hdepth.1 hs fun s hhead => ?_, ?_⟩
      · exact hold s (List.mem_of_mem_head? hhead)
      · exact proper_readItems hdepth.2 hss fun s hs => hold s (List.mem_of_mem_tail hs)
    · cases h

/-- An object is read to proper schemas by name. -/
theorem proper_readNamed {room : Nat} {v : Json} {old es : List (String × Sub)}
    (hdepth : v.depth ≤ room) (h : readNamed old v = some es) (hold : ∀ e ∈ old, e.2.Proper room) :
    ∀ e ∈ es, e.2.Proper room := by
  match v, hdepth, h with
  | .obj members, hdepth, h =>
    obtain ⟨r, rfl, hle⟩ := exists_room hdepth rfl
    rw [readNamed] at h
    exact proper_readEntries (Json.depthMembers_le_iff.1 hle) h hold

/-- Entry by entry.

**Proof sketch.** By recursion over the entries: each is read anew and put in its place. -/
theorem proper_readEntries :
    ∀ {room : Nat} {members : List (String × Json)} {old es : List (String × Sub)},
    (∀ m ∈ members, m.2.depth ≤ room) → readEntries old members = some es →
      (∀ e ∈ old, e.2.Proper (room + 1)) → ∀ e ∈ es, e.2.Proper (room + 1)
  | _, [], old, es, _, h, hold => by
    rw [readEntries] at h
    cases h
    exact hold
  | _, (name, v) :: rest, old, es, hdepth, h, hold => by
    rw [List.forall_mem_cons] at hdepth
    rw [readEntries] at h
    split at h
    · next s hs =>
      exact proper_readEntries hdepth.2 h
        (proper_insertSorted (proper_readSub hdepth.1 hs nofun) hold)
    · cases h

/-- An object is read to proper dependencies. -/
theorem proper_readDependent {room : Nat} {v : Json} {old es : List (String × Sub)}
    (hdepth : v.depth ≤ room) (h : readDependent old v = some es)
    (hold : ∀ e ∈ old, e.2.Proper room) : ∀ e ∈ es, e.2.Proper room := by
  match v, hdepth, h with
  | .obj members, hdepth, h =>
    obtain ⟨r, rfl, hle⟩ := exists_room hdepth rfl
    rw [readDependent] at h
    exact proper_readDependentEntries (Json.depthMembers_le_iff.1 hle) h hold

/-- Entry by entry.

**Proof sketch.** By recursion over the entries, as `proper_readEntries`, with lists of names apart. -/
theorem proper_readDependentEntries :
    ∀ {room : Nat} {members : List (String × Json)} {old es : List (String × Sub)},
    (∀ m ∈ members, m.2.depth ≤ room) → readDependentEntries old members = some es →
      (∀ e ∈ old, e.2.Proper (room + 1)) → ∀ e ∈ es, e.2.Proper (room + 1)
  | _, [], old, es, _, h, hold => by
    rw [readDependentEntries] at h
    cases h
    exact hold
  | _, (name, v) :: rest, old, es, hdepth, h, hold => by
    rw [List.forall_mem_cons] at hdepth
    rw [readDependentEntries] at h
    split at h
    · next s hs =>
      refine proper_readDependentEntries hdepth.2 h (proper_insertSorted ?_ hold)
      split at hs
      · obtain ⟨ns, -, rfl⟩ := Option.map_eq_some_iff.1 hs
        exact .names ns
      · exact proper_readSub hdepth.1 hs nofun
    · cases h

end

/-- **Schemas that are read are proper.**

**Proof sketch.** The reader opens no more containers than a text may have. So the document is not too
deep, and the schema that is read from it needs at most one container more. -/
theorem proper_of_readText? {text : List Char} {s : Schema} (h : readText? text = some s) :
    s.Proper (Json.maxDepth + 1) := by
  obtain ⟨doc, hdoc, hread⟩ := Option.bind_eq_some_iff.1 h
  have hdepth := (Json.fits_of_readWhole hdoc).depth_le
  unfold read? at hread
  split at hread
  · cases hread
    exact proper_blank
  · split at hread
    · next t ht =>
      cases hread
      cases proper_readSub hdepth ht nofun with
      | schema hs => exact hs
    · cases hread
  · cases hread

/-! ## Redirected references -/

mutual

/-- **Redirecting references keeps schemas proper.** -/
theorem Proper.mapRefs (f : String → String) (outer : Bool) :
    ∀ {room : Nat} {s : Schema}, s.Proper room → (s.mapRefs f outer).Proper room
  | _, .mk _ _, .mk hparts hextra => .mk (proper_mapParts f outer hparts) hextra

/-- Part by part.

**Proof sketch.** By recursion over the parts. A reference is a text before and after, and below
walked keys the schemas are walked. -/
theorem proper_mapParts (f : String → String) (outer : Bool) :
    ∀ {room : Nat} {parts : List (Key × Part)}, (∀ e ∈ parts, e.2.Proper room) →
      ∀ e ∈ mapParts f outer parts, e.2.Proper room
  | _, [], _ => nofun
  | _, (k, p) :: rest, h => by
    rw [List.forall_mem_cons] at h
    rw [mapParts, List.forall_mem_cons]
    refine ⟨?_, proper_mapParts f outer h.2⟩
    dsimp only
    split_ifs
    · exact proper_mapData f h.1
    · exact proper_mapPart f false h.1
    · exact proper_mapPart f true h.1
    · exact h.1

/-- The reference of a schema. -/
theorem proper_mapData (f : String → String) :
    ∀ {room : Nat} {p : Part}, p.Proper room → (mapData f p).Proper room
  | _, .data v, .data hv => by
    refine .data ?_
    cases v with
    | str s => exact fits_str _ _
    | null | bool | num | arr | obj => exact hv
  | _, .one _, h | _, .list _, h | _, .named _, h => h

/-- The schemas of a part. -/
theorem proper_mapPart (f : String → String) (outer : Bool) :
    ∀ {room : Nat} {p : Part}, p.Proper room → (mapPart f outer p).Proper room
  | _, .data _, h => h
  | _, .one _, .one hs => .one (proper_mapSub f outer hs)
  | _, .list _, .list hss => .list (proper_mapSubs f outer hss)
  | _, .named _, .named hes => .named (proper_mapNamed f outer hes)

/-- The schema at a place. -/
theorem proper_mapSub (f : String → String) (outer : Bool) :
    ∀ {room : Nat} {s : Sub}, s.Proper room → (mapSub f outer s).Proper room
  | _, .schema _, .schema hs => .schema (Proper.mapRefs f outer hs)
  | _, .truth _, h | _, .nothing, h | _, .names _, h => h

/-- Place by place. -/
theorem proper_mapSubs (f : String → String) (outer : Bool) :
    ∀ {room : Nat} {ss : List Sub}, (∀ s ∈ ss, s.Proper room) →
      ∀ s ∈ mapSubs f outer ss, s.Proper room
  | _, [], _ => nofun
  | _, s :: rest, h => by
    rw [List.forall_mem_cons] at h
    rw [mapSubs, List.forall_mem_cons]
    exact ⟨proper_mapSub f outer h.1, proper_mapSubs f outer h.2⟩

/-- Place by place. -/
theorem proper_mapNamed (f : String → String) (outer : Bool) :
    ∀ {room : Nat} {es : List (String × Sub)}, (∀ e ∈ es, e.2.Proper room) →
      ∀ e ∈ mapNamed f outer es, e.2.Proper room
  | _, [], _ => nofun
  | _, (k, s) :: rest, h => by
    rw [List.forall_mem_cons] at h
    rw [mapNamed, List.forall_mem_cons]
    exact ⟨proper_mapSub f outer h.1, proper_mapNamed f outer h.2⟩

end

end Schema

end SchemaKit
