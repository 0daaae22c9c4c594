import SchemaKit.Proofs.Json.Survival
import SchemaKit.Validation.Compile

/-!
# Schemas that can be moved

A schema without references means the same wherever it stands, and one whose numbers survive as
doubles means the same after it has passed through them. Putting the members of its objects in order
keeps both, and without references there is nothing to be made absolute.

## Main definitions

* `SchemaKit.Validation.Unlinked` — no object holds a reference.
* `SchemaKit.Validation.Portable` — no references, and numbers that survive as doubles.

## Main results

* `SchemaKit.Validation.arrange_rounded` — the order of reading does not depend on the numbers.
* `SchemaKit.Validation.locate_of_unlinked` — without references nothing is made absolute.
-/

namespace SchemaKit.Validation

open Json

/-- No object, at any depth, holds a reference: a text under `$ref`. -/
inductive Unlinked : Json → Prop
  | null : Unlinked .null
  | bool (b : Bool) : Unlinked (.bool b)
  | num (n : Numeral) : Unlinked (.num n)
  | str (s : String) : Unlinked (.str s)
  | arr {items : List Json} (hitems : ∀ v ∈ items, Unlinked v) : Unlinked (.arr items)
  | obj {members : List (String × Json)} (hmembers : ∀ m ∈ members, Unlinked m.2)
      (href : ∀ s, ("$ref", .str s) ∉ members) : Unlinked (.obj members)

/-- A value without references whose numbers survive as doubles. -/
structure Portable (v : Json) : Prop where
  survives : v.Survives
  unlinked : Unlinked v

/-! ## Members in order -/

/-- Members are put in order one by one. -/
lemma arrangeMembers_eq_map (members : List (String × Json)) :
    arrange.arrangeMembers members = members.map fun m => (m.1, arrange m.2) := by
  induction members with
  | nil => rfl
  | cons m rest ih => rw [arrange.arrangeMembers, ih, List.map_cons]

/-- Items are put in order one by one. -/
lemma arrangeItems_eq_map (items : List Json) :
    arrange.arrangeItems items = items.map arrange := by
  induction items with
  | nil => rfl
  | cons v rest ih => rw [arrange.arrangeItems, ih, List.map_cons]

/-- Putting in a member adds that member. -/
lemma mem_insertRanked {m m' : String × Json} {members : List (String × Json)} :
    m' ∈ insertRanked m members ↔ m' = m ∨ m' ∈ members := by
  induction members with
  | nil => simp [insertRanked]
  | cons first rest ih =>
    rw [insertRanked]
    split
    · exact List.mem_cons
    · rw [List.mem_cons, ih, List.mem_cons]
      exact or_left_comm

/-- The order of reading keeps all members.

**Proof sketch.** The same holds of the sorting of all members into any list, by induction with
`mem_insertRanked`. -/
lemma mem_sortRanked {m : String × Json} {members : List (String × Json)} :
    m ∈ sortRanked members ↔ m ∈ members := by
  have hfold : ∀ acc : List (String × Json),
      m ∈ members.foldl (fun acc m => insertRanked m acc) acc ↔ m ∈ acc ∨ m ∈ members := by
    induction members with
    | nil => simp
    | cons first rest ih =>
      intro acc
      rw [List.foldl_cons, ih, mem_insertRanked, List.mem_cons, or_assoc, or_left_comm]
  simpa [sortRanked] using hfold []

/-- Putting in a member and changing the values goes in any order. -/
lemma insertRanked_map (g : Json → Json) (m : String × Json) (members : List (String × Json)) :
    insertRanked (m.1, g m.2) (members.map fun m => (m.1, g m.2)) =
      (insertRanked m members).map fun m => (m.1, g m.2) := by
  induction members with
  | nil => rfl
  | cons first rest ih =>
    simp only [List.map_cons, insertRanked]
    split
    · rfl
    · rw [ih, List.map_cons]

/-- The order of reading does not depend on the values.

**Proof sketch.** The same holds of the sorting of all members into any list, by induction with
`insertRanked_map`. -/
lemma sortRanked_map (g : Json → Json) (members : List (String × Json)) :
    sortRanked (members.map fun m => (m.1, g m.2)) =
      (sortRanked members).map fun m => (m.1, g m.2) := by
  have hfold : ∀ acc : List (String × Json),
      (members.map fun m => (m.1, g m.2)).foldl (fun acc m => insertRanked m acc)
          (acc.map fun m => (m.1, g m.2)) =
        (members.foldl (fun acc m => insertRanked m acc) acc).map fun m => (m.1, g m.2) := by
    induction members with
    | nil => exact fun _ => rfl
    | cons m rest ih =>
      intro acc
      rw [List.map_cons, List.foldl_cons, List.foldl_cons, ← ih, ← insertRanked_map]
  exact hfold []

/-- **The order of reading does not depend on the numbers.**

**Proof sketch.** Induction on the value. The members are sorted by their names, which rounding does
not change. -/
theorem arrange_rounded (v : Json) : arrange v.rounded = (arrange v).rounded := by
  induction v using Json.induction with
  | null | bool | num | str => rfl
  | arr items ih =>
    rw [rounded_arr, arrange, arrange, arrangeItems_eq_map, arrangeItems_eq_map, rounded_arr,
      List.map_map, List.map_map]
    exact congrArg Json.arr (List.map_congr_left ih)
  | obj members ih =>
    have hmembers : (members.map fun m => (m.1, arrange m.2.rounded)) =
        members.map fun m => (m.1, (arrange m.2).rounded) :=
      List.map_congr_left fun m hm => Prod.ext rfl (ih m hm)
    rw [rounded_obj, arrange, arrange, arrangeMembers_eq_map, arrangeMembers_eq_map, rounded_obj,
      ← sortRanked_map, List.map_map, List.map_map]
    exact congrArg (fun ms => Json.obj (sortRanked ms)) hmembers

/-! ## What order keeps -/

/-- The order of reading puts members in order.

**Proof sketch.** For the members, every one of the arranged members is one of those that were
there. -/
lemma arranges_arrange : Arranges arrange where
  null := rfl
  bool _ := rfl
  num n := ⟨n, rfl⟩
  num_eq _ := rfl
  str _ := rfl
  arr items := by rw [arrange, arrangeItems_eq_map]
  obj members := by
    rw [arrange, arrangeMembers_eq_map]
    refine ⟨_, rfl, fun m hm => ?_⟩
    obtain ⟨m', hm', rfl⟩ := List.mem_map.1 (mem_sortRanked.1 hm)
    exact ⟨m', hm', rfl⟩

section

variable {v : Json}

/-- Changing numbers and the order of members brings in no references.

**Proof sketch.** Induction on the value. A member that would be a reference afterwards is named as
one and holds a text, and by `eq_str` it held the same text before. -/
lemma Unlinked.reshaped {g : Json → Json} (hg : Reshapes g) (h : Unlinked v) : Unlinked (g v) := by
  induction h with
  | null =>
    rw [hg.null]
    exact .null
  | bool b =>
    rw [hg.bool]
    exact .bool b
  | num n =>
    obtain ⟨n', hn'⟩ := hg.num n
    rw [hn']
    exact .num n'
  | str s =>
    rw [hg.str]
    exact .str s
  | @arr items _ ih =>
    rw [hg.arr]
    refine .arr fun w hw => ?_
    obtain ⟨v, hv, rfl⟩ := List.mem_map.1 hw
    exact ih v hv
  | @obj members _ href ih =>
    obtain ⟨members', heq, hmembers⟩ := hg.obj members
    rw [heq]
    refine .obj (fun m hm => ?_) fun s hs => ?_
    · obtain ⟨m', hm', rfl⟩ := hmembers m hm
      exact ih m' hm'
    · obtain ⟨⟨k, w⟩, hw, hkw⟩ := hmembers _ hs
      obtain ⟨rfl, htext⟩ := Prod.mk.inj hkw
      exact href s (hg.eq_str htext.symm ▸ hw)

/-- Putting members in order keeps a value that can be moved one. -/
lemma Portable.arranged {g : Json → Json} (hg : Arranges g) (h : Portable v) : Portable (g v) :=
  ⟨h.survives.arranged hg, h.unlinked.reshaped hg.toReshapes⟩

/-- The items of an array that can be moved. -/
lemma Portable.of_mem_arr {items : List Json} (h : Portable (.arr items)) {w : Json}
    (hw : w ∈ items) : Portable w := by
  obtain ⟨hsurvives, hunlinked⟩ := h
  cases hsurvives with
  | arr hsurvives =>
    cases hunlinked with
    | arr hunlinked => exact ⟨hsurvives w hw, hunlinked w hw⟩

/-- The members of an object that can be moved. -/
lemma Portable.of_mem_obj {members : List (String × Json)} (h : Portable (.obj members))
    {m : String × Json} (hm : m ∈ members) : Portable m.2 := by
  obtain ⟨hsurvives, hunlinked⟩ := h
  cases hsurvives with
  | obj hsurvives =>
    cases hunlinked with
    | obj hunlinked => exact ⟨hsurvives m hm, hunlinked m hm⟩

/-- Some of the members of an object that can be moved. -/
lemma Portable.of_subset_obj {members members' : List (String × Json)}
    (h : Portable (.obj members)) (hsub : members' ⊆ members) : Portable (.obj members') where
  survives := .obj fun _ hm => (h.of_mem_obj (hsub hm)).survives
  unlinked := by
    cases h.unlinked with
    | obj hmembers href => exact .obj (fun m hm => hmembers m (hsub hm)) fun s hs => href s (hsub hs)

end

/-! ## References made absolute -/

/-- Only texts are made absolute. -/
lemma absolute_eq_self (base : Uri) {v : Json} (h : ∀ s, v ≠ .str s) : absolute base v = v := by
  cases v with
  | str s => exact absurd rfl (h s)
  | _ => rfl

mutual

/-- **Without references nothing is made absolute.**

**Proof sketch.** By recursion over the value. The location changes nothing but references, and of
those there are none. -/
theorem locate_of_unlinked (base : Uri) (v : Json) (h : Unlinked v) (names : Names) :
    (locate base v names).1 = v := by
  cases v with
  | arr items =>
    cases h with
    | arr hitems =>
      rw [locate]
      exact congrArg Json.arr (locateItems_of_unlinked base items hitems names)
  | obj members =>
    cases h with
    | obj hmembers href =>
      rw [locate]
      dsimp only
      split
      · exact congrArg Json.obj (locateMembers_of_unlinked _ members hmembers href names)
      · split
        · rfl
        · exact congrArg Json.obj (locateMembers_of_unlinked _ members hmembers href _)
  | _ =>
    rw [locate]
    all_goals simp

/-- Item by item. -/
theorem locateItems_of_unlinked (base : Uri) (items : List Json) (h : ∀ v ∈ items, Unlinked v)
    (names : Names) : (locateItems base items names).1 = items := by
  cases items with
  | nil => rfl
  | cons v rest =>
    rw [List.forall_mem_cons] at h
    rw [locateItems]
    dsimp only
    rw [locate_of_unlinked base v h.1, locateItems_of_unlinked base rest h.2]

/-- Member by member.

**Proof sketch.** By recursion over the members. A member named as a reference would be made
absolute if it were a text, which is excluded. -/
theorem locateMembers_of_unlinked (base : Uri) (members : List (String × Json))
    (h : ∀ m ∈ members, Unlinked m.2) (href : ∀ s, ("$ref", .str s) ∉ members) (names : Names) :
    (locateMembers base members names).1 = members := by
  cases members with
  | nil => rfl
  | cons m rest =>
    obtain ⟨k, v⟩ := m
    rw [List.forall_mem_cons] at h
    simp only [List.mem_cons, not_or] at href
    have hrest := locateMembers_of_unlinked base rest h.2 fun s => (href s).2
    have hvalue : (if isData k then (v, names)
        else if isNameMap k then locateMap base v names
        else
          (if k == "$ref" then absolute base (locate base v names).1 else (locate base v names).1,
            (locate base v names).2)).1 = v := by
      split
      · rfl
      · split
        · exact locateMap_of_unlinked base v h.1 names
        · dsimp only
          rw [locate_of_unlinked base v h.1]
          split
          · next hk =>
            refine absolute_eq_self base fun s hs => (href s).1 ?_
            rw [hs, beq_iff_eq.1 hk]
          · rfl
    rw [locateMembers]
    dsimp only
    rw [hrest]
    exact congrArg (fun w => (k, w) :: rest) hvalue

/-- A map from names to schemas. -/
theorem locateMap_of_unlinked (base : Uri) (v : Json) (h : Unlinked v) (names : Names) :
    (locateMap base v names).1 = v := by
  cases v with
  | obj children =>
    cases h with
    | obj hchildren =>
      rw [locateMap]
      exact congrArg Json.obj (locateChildren_of_unlinked base children hchildren names)
  | _ =>
    rw [locateMap]
    all_goals simp

/-- The schemas of a name map. -/
theorem locateChildren_of_unlinked (base : Uri) (children : List (String × Json))
    (h : ∀ m ∈ children, Unlinked m.2) (names : Names) :
    (locateChildren base children names).1 = children := by
  cases children with
  | nil => rfl
  | cons m rest =>
    obtain ⟨k, v⟩ := m
    rw [List.forall_mem_cons] at h
    rw [locateChildren]
    dsimp only
    rw [locate_of_unlinked base v h.1, locateChildren_of_unlinked base rest h.2]

end

end SchemaKit.Validation
