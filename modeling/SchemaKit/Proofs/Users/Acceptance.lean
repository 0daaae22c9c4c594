import SchemaKit.Proofs.Json.Canonical
import SchemaKit.Proofs.Json.Consumed
import SchemaKit.Proofs.Merge.Union
import SchemaKit.Proofs.Users.History

/-!
# Which texts are accounts

A text of an account is read twice: the validation looks at the first value of the text, takes names
as they are spelled and counts the last one of repeated members; the reading of the properties takes
the whole text, compares names up to case and goes through every member. A text is accepted by both
only if they agree on it, and what is stored is what the last members say.

## Main definitions

* `SchemaKit.Account.Admits` — members that are those of an account.

## Main results

* `SchemaKit.Account.validate_eq_ok_iff_admits` — what the validation asks of an object.
* `SchemaKit.Account.admits_of_deserialize` — what is stored is what the last members say.
* `SchemaKit.Account.deserialize_of_admits` — members of an account are accepted.
* `SchemaKit.Account.deserialize_accepts` — which texts are accepted.
-/

namespace SchemaKit

open Json Validation

/-! ## The values of members in order -/

section

variable (v : Json)

/-- The kind of a value does not depend on the order of its members. -/
lemma kindOf_settle : Kind.of v.settle = Kind.of v := by
  cases v <;> rfl

/-- Only a text is a text in order. -/
lemma settle_eq_str_iff (s : String) : v.settle = .str s ↔ v = .str s := by
  cases v <;> simp [settle]

/-- Only null is null in order. -/
lemma settle_eq_null_iff : v.settle = .null ↔ v = .null := by
  cases v <;> simp [settle]

end

/-- In order, a name has its last member. -/
lemma lookup?_settleMembers (members : List (String × Json)) (name : String) :
    lookup? (sortLast (settle.settleMembers members)) name = (last? members name).map settle := by
  rw [lookup?_sortLast, settleMembers_eq_map]
  induction members using List.reverseRecOn with
  | nil => rfl
  | append_singleton ms m ih =>
    rw [List.map_append, List.map_singleton, last?_concat, last?_concat, ih]
    split <;> rfl

/-- Order does not change which names there are. -/
lemma mem_keys_settleMembers {members : List (String × Json)} {k : String} :
    k ∈ (sortLast (settle.settleMembers members)).map (·.1) ↔ k ∈ members.map (·.1) := by
  rw [mem_keys_sortLast, settleMembers_eq_map, List.map_map]
  rfl

/-- Only numbers are of the kind of integers. -/
lemma exists_num_of_kindOf {v : Json} (h : Kind.of v = .integer) : ∃ n, v = .num n := by
  cases v with
  | num n => exact ⟨n, rfl⟩
  | _ => cases h

namespace Account

/-! ## What the validation asks for -/

/-- Members that are those of an account: there is an integer under `id`, the name stands under
`name`, and the address under `email`, where null or nothing means that there is none. No other name
occurs. Of repeated members the last one counts. -/
structure Admits (members : List (String × Json)) (n : Numeral) (name : String)
    (email : Option String) : Prop where
  declared : ∀ m ∈ members, m.1 = "id" ∨ m.1 = "email" ∨ m.1 = "name"
  id_eq : last? members "id" = some (.num n)
  integer : Kind.of (.num n) = .integer
  name_eq : last? members "name" = some (.str name)
  email_eq : last? members "email" = email.map .str ∨
    last? members "email" = some .null ∧ email = none

variable {text : List Char} {members : List (String × Json)}

/-- The constraint of users asks for the members of an account.

**Proof sketch.** By `clean_userConstraint` the constraint is about the settled members, and
settling keeps the last member of a name. An integer, a text and `null` are what they were before. -/
lemma clean_iff_admits :
    (userConstraint.tally (settle (.obj members))).Clean ↔
      ∃ n name email, Admits members n name email := by
  rw [settle, clean_userConstraint, ← List.forall_mem_map (f := Prod.fst)
    (P := fun k => k = "id" ∨ k = "email" ∨ k = "name")]
  simp only [lookup?_settleMembers, mem_keys_settleMembers, Option.map_eq_some_iff,
    settle_eq_str_iff, List.forall_mem_map]
  constructor
  · rintro ⟨⟨_, ⟨v, hid, rfl⟩, hkind⟩, ⟨name, _, hname, rfl⟩, hemail, hdeclared⟩
    rw [kindOf_settle] at hkind
    obtain ⟨n, rfl⟩ := exists_num_of_kindOf hkind
    cases hlast : last? members "email" with
    | none => exact ⟨n, name, none, hdeclared, hid, hkind, hname, .inl hlast⟩
    | some w =>
      rcases hemail w.settle ⟨w, hlast, rfl⟩ with ⟨address, hw⟩ | hw
      · obtain rfl := (settle_eq_str_iff w address).1 hw
        exact ⟨n, name, some address, hdeclared, hid, hkind, hname, .inl hlast⟩
      · obtain rfl := (settle_eq_null_iff w).1 hw
        exact ⟨n, name, none, hdeclared, hid, hkind, hname, .inr ⟨hlast, rfl⟩⟩
  · rintro ⟨n, name, email, h⟩
    refine ⟨⟨_, ⟨_, h.id_eq, rfl⟩, h.integer⟩, ⟨name, _, h.name_eq, rfl⟩, ?_, h.declared⟩
    rintro _ ⟨w, hw, rfl⟩
    rcases h.email_eq with hemail | ⟨hemail, -⟩
    · obtain ⟨address, -, rfl⟩ := Option.map_eq_some_iff.1 (hemail.symm.trans hw)
      exact .inl ⟨address, rfl⟩
    · obtain rfl := Option.some.inj (hemail.symm.trans hw)
      exact .inr rfl

/-- **What the validation asks of an object**: that its members are those of an account.

**Proof sketch.** The text is not empty and its schema compiles, so the verdict is that on its
members, which is `clean_iff_admits`. -/
theorem validate_eq_ok_iff_admits (hread : readWhole text = some (.obj members)) :
    validate accountEntity.name accountEntity.schema.toList text = .ok () ↔
      ∃ n name email, Admits members n name email := by
  have htext : text ≠ [] := by
    rintro rfl
    cases hread
  have hjudge : validate accountEntity.name accountEntity.schema.toList text =
      userConstraint.judge accountEntity.name (settle (.obj members)) :=
    validate_eq_judge htext compileText_userSchema (readFirst_of_readWhole hread)
  rw [hjudge, judge_eq_ok_iff, clean_iff_admits]

/-! ## What the last members say -/

/-- The id is the last number.

**Proof sketch.** The last number replaces what was read before it. -/
lemma eq_of_readId {vs : List Json} {n m : Numeral} (hlast : vs.getLast? = some (.num n))
    (h : vs.foldlM readId (none, true) = .ok (some m, true)) : m = n := by
  obtain ⟨ys, rfl⟩ := List.getLast?_eq_some_iff.1 hlast
  rw [List.foldlM_append] at h
  cases hys : ys.foldlM readId (none, true) with
  | error r =>
    rw [hys] at h
    cases h
  | ok old =>
    rw [hys] at h
    have hsame : (some n, old.2) = (some m, true) := Except.ok.inj h
    exact (Option.some.inj (congrArg Prod.fst hsame)).symm

/-- The name is the last text. -/
lemma eq_of_readText {vs : List Json} {s name : String} (hlast : vs.getLast? = some (.str s))
    (h : readField readText "" vs = ⟨name, true⟩) : name = s := by
  obtain ⟨ys, rfl⟩ := List.getLast?_eq_some_iff.1 hlast
  rw [readField_concat] at h
  exact (congrArg Progress.value h).symm

/-- The address is the last text, and there is none if the last member is null or if there are no
members.

**Proof sketch.** The last member replaces what was read before it, and `null` clears it. -/
lemma eq_of_readOptional {vs : List Json} {e email : Option String}
    (hlast : vs.getLast? = e.map .str ∨ vs.getLast? = some .null ∧ e = none)
    (h : readField readOptional none vs = ⟨email, true⟩) : email = e := by
  rcases hlast with hlast | ⟨hlast, rfl⟩
  · cases e with
    | none =>
      obtain rfl := List.getLast?_eq_none_iff.1 hlast
      cases h
      rfl
    | some s =>
      obtain ⟨ys, rfl⟩ := List.getLast?_eq_some_iff.1 hlast
      rw [readField_concat] at h
      exact (congrArg Progress.value h).symm
  · obtain ⟨ys, rfl⟩ := List.getLast?_eq_some_iff.1 hlast
    rw [readField_concat] at h
    exact (congrArg Progress.value h).symm

/-- The names of the members are not taken for one another. -/
lemma equalFold_eq_beq {k name : String} (hk : k = "id" ∨ k = "email" ∨ k = "name")
    (hname : name = "id" ∨ name = "email" ∨ name = "name") :
    Text.equalFold k name = (k == name) := by
  rcases hk with rfl | rfl | rfl <;> rcases hname with rfl | rfl | rfl <;> decide

section

variable {n : Numeral} {i : Int} {name : String} {email : Option String}

/-- The values that are read for a property. -/
lemma Admits.fieldsNamed_eq (h : Admits members n name email) {field : String}
    (hfield : field = "id" ∨ field = "email" ∨ field = "name") :
    fieldsNamed members field = Merge.valuesOf field members :=
  Merge.fieldsNamed_eq_valuesOf fun m hm => equalFold_eq_beq (h.declared m hm) hfield

/-- The last one of the values that are read for a property. -/
lemma Admits.getLast?_fieldsNamed (h : Admits members n name email) {field : String}
    (hfield : field = "id" ∨ field = "email" ∨ field = "name") :
    (fieldsNamed members field).getLast? = last? members field := by
  rw [h.fieldsNamed_eq hfield, Merge.getLast?_valuesOf]

/-- A text that is read has been validated. -/
lemma validate_of_deserialize {a : Account} (h : deserialize text = .ok a) :
    validate accountEntity.name accountEntity.schema.toList text = .ok () := by
  unfold deserialize at h
  split at h
  · cases h
  · next hvalid => exact hvalid

/-- **What is stored is what the last members say.**

**Proof sketch.** The text passed the validation, so its members are those of an account by
`clean_iff_admits`. No other names are taken for the three fields, so the last of each is read. -/
theorem admits_of_deserialize {a : Account} (h : deserialize text = .ok a) :
    ∃ members n, readWhole text = some (.obj members) ∧ Admits members n a.name a.email ∧
      integral n = .ok a.id := by
  rcases deserialize_cases text with ⟨r, hr, -⟩ | ⟨b, hb, members, m, hread, hid, hm, hname, hemail⟩
  · cases hr.symm.trans h
  · obtain rfl : b = a := Except.ok.inj (hb.symm.trans h)
    obtain ⟨n, name, email, hadmits⟩ :=
      (validate_eq_ok_iff_admits hread).1 (validate_of_deserialize h)
    have hlast : ∀ field : String, field = "id" ∨ field = "email" ∨ field = "name" →
        (fieldsNamed members field).getLast? = last? members field :=
      fun _ hfield => hadmits.getLast?_fieldsNamed hfield
    obtain rfl : m = n := eq_of_readId ((hlast "id" (by simp)).trans hadmits.id_eq) hid
    have hname' : b.name = name :=
      eq_of_readText ((hlast "name" (by simp)).trans hadmits.name_eq) hname
    have hemail' : b.email = email := by
      have hsays := hadmits.email_eq
      rw [← hlast "email" (by simp)] at hsays
      exact eq_of_readOptional hsays hemail
    rw [← hname', ← hemail'] at hadmits
    exact ⟨members, m, hread, hadmits, hm⟩

/-! ## Members that are not repeated -/

/-- What is read from the members of an account.

**Proof sketch.** Each name occurs at most once, so every field is read from one member or from
none. -/
lemma Admits.readDraft_eq (h : Admits members n name email) (hnodup : (members.map (·.1)).Nodup) :
    readDraft members = .ok ⟨some n, name, email⟩ := by
  have hfields : ∀ field : String, field = "id" ∨ field = "email" ∨ field = "name" →
      fieldsNamed members field = (last? members field).toList := by
    intro field hfield
    rw [h.fieldsNamed_eq hfield, Merge.valuesOf_eq_toList hnodup, last?_eq_lookup? hnodup]
  have hid : (fieldsNamed members "id").foldlM readId (none, true) = .ok (some n, true) := by
    rw [hfields "id" (by simp), h.id_eq]
    rfl
  have hname : readField readText "" (fieldsNamed members "name") = ⟨name, true⟩ := by
    rw [hfields "name" (by simp), h.name_eq]
    rfl
  have hemail : readField readOptional none (fieldsNamed members "email") = ⟨email, true⟩ := by
    rw [hfields "email" (by simp)]
    rcases h.email_eq with hlast | ⟨hlast, rfl⟩
    · rw [hlast]
      cases email <;> rfl
    · rw [hlast]
      rfl
  rw [readDraft, hid, hname, hemail]
  rfl

/-- The members of an account hold no containers.

**Proof sketch.** Each of the members is a number, a text or `null`. -/
lemma Admits.depth_le (h : Admits members n name email) (hnodup : (members.map (·.1)).Nodup) :
    (Json.obj members).depth ≤ maxDepth := by
  have hflat : ∀ m ∈ members, m.2.depth ≤ 0 := by
    rintro ⟨field, v⟩ hm
    have hlast : last? members field = some v := (last?_eq_some_iff hnodup).2 hm
    rcases h.declared _ hm with rfl | rfl | rfl
    · obtain rfl := Option.some.inj (h.id_eq.symm.trans hlast)
      exact le_rfl
    · rcases h.email_eq with hemail | ⟨hemail, -⟩
      · obtain ⟨address, -, rfl⟩ := Option.map_eq_some_iff.1 (hemail.symm.trans hlast)
        exact le_rfl
      · obtain rfl := Option.some.inj (hemail.symm.trans hlast)
        exact le_rfl
    · obtain rfl := Option.some.inj (h.name_eq.symm.trans hlast)
      exact le_rfl
  have hmembers : depth.depthMembers members ≤ 0 := depthMembers_le_iff.2 hflat
  rw [depth, maxDepth]
  omega

/-- **Members of an account are accepted**, if none is repeated and the id can be taken from its
literal. -/
theorem deserialize_of_admits (hread : readWhole text = some (.obj members))
    (hnodup : (members.map (·.1)).Nodup) (h : Admits members n name email)
    (hi : integral n = .ok i) : deserialize text = .ok ⟨i, name, email⟩ := by
  have hvalid := (validate_eq_ok_iff_admits hread).2 ⟨n, name, email, h⟩
  rw [deserialize, hvalid, hread]
  simp only [h.readDraft_eq hnodup, hi, bind, Except.bind, pure, Except.pure]

end

/-- **Which texts are accepted.** A text that is accepted is one document and nothing else, an
object whose last members are those of an account, and the name and the address in them are what is
stored. Conversely every document of members of an account is accepted, if no member is repeated and
the id can be taken from its literal.

**Proof sketch.** The validation judges the document in order, where each name has its last member;
so it asks for members of an account. As no other name occurs, none is taken for another one by its
case, and the values that are read for a property end with its last member. -/
theorem deserialize_accepts :
    (∀ text a, deserialize text = .ok a →
      ∃ members n, IsDocument (.obj members) text ∧ Admits members n a.name a.email ∧
        integral n = .ok a.id) ∧
    ∀ text members n i name email, IsDocument (.obj members) text → (members.map (·.1)).Nodup →
      Admits members n name email → integral n = .ok i →
      deserialize text = .ok ⟨i, name, email⟩ := by
  constructor
  · intro text a h
    obtain ⟨members, n, hread, hadmits, hn⟩ := admits_of_deserialize h
    exact ⟨members, n, (readWhole_eq_some_iff.1 hread).1, hadmits, hn⟩
  · intro text members n i name email hdocument hnodup hadmits hi
    have hread : readWhole text = some (.obj members) :=
      readWhole_eq_some_iff.2 ⟨hdocument, hadmits.depth_le hnodup⟩
    exact deserialize_of_admits hread hnodup hadmits hi

/-- A text with blanks, with the members in another order than they are written in, and with an id
that is not a plain literal. -/
def spacedText : List Char := " \x7b\"name\": \"Ada\", \"email\" : null,\n\"id\":2.0\x7d\n".toList

/-- The literal of the id. -/
def spacedId : Numeral := ⟨false, ['2'], some ['0'], none⟩

/-- The members in the text. -/
def spacedMembers : List (String × Json) :=
  [("name", .str "Ada"), ("email", .null), ("id", .num spacedId)]

/-- The text is a document of members of an account, and both readings agree on it.

**Proof sketch.** The document is read by evaluation, and the two directions are those of
`deserialize_accepts`. -/
theorem deserialize_accepts_spaced :
    IsDocument (.obj spacedMembers) spacedText ∧ (spacedMembers.map (·.1)).Nodup ∧
      Admits spacedMembers spacedId "Ada" none ∧ integral spacedId = .ok 2 ∧
      deserialize spacedText = .ok ⟨2, "Ada", none⟩ ∧
      ∃ members n, IsDocument (.obj members) spacedText ∧ Admits members n "Ada" none ∧
        integral n = .ok 2 := by
  have hread : readWhole spacedText = some (.obj spacedMembers) := by rfl
  have hdocument : IsDocument (.obj spacedMembers) spacedText := (readWhole_eq_some_iff.1 hread).1
  have hnodup : (spacedMembers.map (·.1)).Nodup := by decide
  have hadmits : Admits spacedMembers spacedId "Ada" none :=
    ⟨by decide, rfl, rfl, rfl, .inr ⟨rfl, rfl⟩⟩
  have hid : integral spacedId = .ok 2 := by rfl
  obtain ⟨hsound, hcomplete⟩ := deserialize_accepts
  have hdeserialize :=
    hcomplete spacedText spacedMembers spacedId 2 "Ada" none hdocument hnodup hadmits hid
  exact ⟨hdocument, hnodup, hadmits, hid, hdeserialize, hsound _ _ hdeserialize⟩

end Account

end SchemaKit
