import SchemaKit.Proofs.Drift.Spots

/-!
# The order of fields

The check stops at the first disagreement, and the order of fields decides which one that is. Whether
there is one does not depend on the order, because acceptance is a matter of single spots: wherever the
walk comes, it comes with the fields in another order as well. So a whole that is accepted has been looked
at everywhere, and there is no field and no property that was left out.

## Main definitions

* `SchemaKit.Drift.Reordered` — shapes that differ in the order of fields, at any depth.
* `SchemaKit.Drift.outline` — a shape without the fields of its records.
* `SchemaKit.Drift.Thorough` — what acceptance says about a spot.

## Main results

* `SchemaKit.Drift.Reordered.accepted` — the order of fields does not matter for acceptance.
* `SchemaKit.Drift.Accepted.thorough` — an accepted spot is thorough.
* `SchemaKit.Drift.check_thorough` — the check misses no field and no property, in any order.
-/

namespace SchemaKit.Drift

open Json (lookup?)

/-! ## Fields in another order -/

/-- Two shapes differ at most in the order of the fields of their records, at any depth. -/
inductive Reordered : Shape → Shape → Prop
  | refl (s : Shape) : Reordered s s
  | trans {s s' s'' : Shape} (h : Reordered s s') (h' : Reordered s' s'') : Reordered s s''
  | fields {waiver : Waiver} {fields fields' : List (Label × Shape)} (h : fields.Perm fields') :
      Reordered (.record waiver fields) (.record waiver fields')
  | field {waiver : Waiver} {before behind : List (Label × Shape)} {l : Label} {s s' : Shape}
      (h : Reordered s s') :
      Reordered (.record waiver (before ++ (l, s) :: behind))
        (.record waiver (before ++ (l, s') :: behind))
  | pointer {elem elem' : Shape} {isSet : Bool} (h : Reordered elem elem') :
      Reordered (.pointer elem isSet) (.pointer elem' isSet)
  | named {waiver : Waiver} {base base' : Shape} (h : Reordered base base') :
      Reordered (.named waiver base) (.named waiver base')
  | slice {elem elem' : Shape} (h : Reordered elem elem') : Reordered (.slice elem) (.slice elem')
  | array {elem elem' : Shape} (h : Reordered elem elem') : Reordered (.array elem) (.array elem')
  | map {elem elem' : Shape} (h : Reordered elem elem') : Reordered (.map elem) (.map elem')

/-- A shape without the fields of its records. -/
def outline : Shape → Shape
  | .pointer elem isSet => .pointer (outline elem) isSet
  | .slice elem => .slice (outline elem)
  | .array elem => .array (outline elem)
  | .map elem => .map (outline elem)
  | .record waiver _ => .record waiver []
  | .named waiver base => .named waiver (outline base)
  | s => s

section

variable {root : Schema} {s s' : Shape} {p : Place} {path : Path} {stage : Stage} {t : Target}

/-- The order can be taken back.

**Proof sketch.** Induction on the reordering: a permutation can be taken back. -/
lemma Reordered.symm (h : Reordered s s') : Reordered s' s := by
  induction h with
  | refl s => exact .refl s
  | trans _ _ ih ih' => exact .trans ih' ih
  | fields h => exact .fields h.symm
  | field _ ih => exact .field ih
  | pointer _ ih => exact .pointer ih
  | named _ ih => exact .named ih
  | slice _ ih => exact .slice ih
  | array _ ih => exact .array ih
  | map _ ih => exact .map ih

/-- The outline does not depend on the order. -/
lemma Reordered.outline_eq (h : Reordered s s') : outline s = outline s' := by
  induction h with
  | refl s => rfl
  | trans _ _ ih ih' => exact ih.trans ih'
  | fields _ => rfl
  | field _ _ => rfl
  | pointer _ ih | named _ ih | slice _ ih | array _ ih | map _ ih => simp only [outline, ih]

/-- What a shape says about being passed over shows in its outline. -/
lemma waiver_outline (s : Shape) : (outline s).waiver = s.waiver := by
  cases s <;> rfl

/-- Whether a shape asks to be passed over shows in its outline. -/
lemma waived_outline (s : Shape) (p : Place) : waived (outline s) p = waived s p := by
  cases s with
  | pointer elem isSet => simp only [outline, waived, waiver_outline]
  | primitive | anything | raw | time | role | slice | array | map | record | named => rfl

/-- Whether a shape is a byte shows in its outline. -/
lemma isByte_outline : ∀ s : Shape, (outline s).isByte = s.isByte
  | .named _ base => isByte_outline base
  | .primitive _ | .anything | .raw | .time | .role | .pointer _ _ | .slice _ | .array _ | .map _
  | .record _ _ => rfl

/-- The name of a shape in messages shows in its outline. -/
lemma kind_outline : ∀ s : Shape, (outline s).kind = s.kind
  | .named _ base => kind_outline base
  | .primitive _ | .anything | .raw | .time | .role | .pointer _ _ | .slice _ | .array _ | .map _
  | .record _ _ => rfl

/-- What a shape fits shows in its outline. -/
lemma fits_outline (k : Validation.Kind) (s : Shape) : fits k (outline s) = fits k s := by
  have hinteger : (outline s).isInteger = s.isInteger := by cases s <;> rfl
  have hnumber : (outline s).isNumber = s.isNumber := by cases s <;> rfl
  have htext : (outline s).isText = s.isText := by
    cases s with
    | slice elem => exact isByte_outline elem
    | array elem => exact isByte_outline elem
    | primitive | anything | raw | time | role | pointer | map | record | named => rfl
  simp only [fits, kind_outline, hinteger, hnumber, htext]

/-- What a shape is compared with shows in its outline. -/
lemma enter_outline (s : Shape) : enter root (outline s) p path stage = enter root s p path stage := by
  have hpointer : isPointer (outline s) = isPointer s := by cases s <;> rfl
  have hanything : isAnything (outline s) = isAnything s := by cases s <;> rfl
  cases stage with
  | resolved t => rfl
  | arrival sch omitted => simp only [enter, waived_outline, hpointer, hanything]

/-- What a shape is compared with does not depend on the order of fields. -/
lemma Reordered.enter_eq (h : Reordered s s') :
    enter root s p path stage = enter root s' p path stage := by
  rw [← enter_outline s, h.outline_eq, enter_outline]

/-- What a shape fits does not depend on the order of fields. -/
lemma Reordered.fits_eq (h : Reordered s s') (k : Validation.Kind) : fits k s = fits k s' := by
  rw [← fits_outline k s, h.outline_eq, fits_outline]

/-- Labels fit properties in any order. -/
lemma Matches.perm {sch : Schema} {labels labels' : List Label} (h : Matches sch labels)
    (hperm : labels.Perm labels') : Matches sch labels' where
  isOpen := h.isOpen
  declared l hl := h.declared l (hperm.mem_iff.2 hl)
  met name hname := by
    obtain ⟨l, hl, hmember⟩ := h.met name hname
    exact ⟨l, hperm.mem_iff.1 hl, hmember⟩

/-- Whether a target agrees with a shape does not depend on the order of fields.

**Proof sketch.** By induction on how the order was changed. Agreement with a record is about its
labels in any order, and agreement with another shape is about the kind of the target, or about what
the shape fits, which does not depend on the order. -/
lemma Reordered.agrees (h : Reordered s s') (hs : Agrees t stage s) : Agrees t stage s' := by
  induction h with
  | refl s => exact hs
  | trans _ _ ih ih' => exact ih' (ih hs)
  | fields h =>
    rw [agrees_record_iff] at hs ⊢
    exact ⟨hs.1, hs.2.perm (h.map _)⟩
  | field _ _ =>
    rw [agrees_record_iff] at hs ⊢
    simpa using hs
  | pointer h _ =>
    cases hs with
    | leaf hfits => exact .leaf ((h.pointer.fits_eq _).symm.trans hfits)
    | pointer => exact .pointer
  | named h _ =>
    cases hs with
    | leaf hfits => exact .leaf ((h.named.fits_eq _).symm.trans hfits)
    | named => exact .named
  | slice h _ =>
    cases hs with
    | leaf hfits => exact .leaf ((h.slice.fits_eq _).symm.trans hfits)
    | slice hkind => exact .slice hkind
  | array h _ =>
    cases hs with
    | leaf hfits => exact .leaf ((h.array.fits_eq _).symm.trans hfits)
    | array hkind => exact .array hkind
  | map h _ =>
    rw [agrees_map_iff] at hs ⊢
    exact hs

/-- Whether something is wrong at a spot itself does not depend on the order of fields. -/
lemma Reordered.clean (h : Reordered s s') (hs : Clean root ⟨s, p, path, stage⟩) :
    Clean root ⟨s', p, path, stage⟩ := by
  obtain ⟨met, hmet, hagrees⟩ := hs
  exact ⟨met, h.enter_eq ▸ hmet, fun t ht => h.agrees (hagrees t ht)⟩

/-- A target is met with the fields in any order. -/
lemma Reordered.meets (h : Reordered s s') (hs : Meets root ⟨s', p, path, stage⟩ t) :
    Meets root ⟨s, p, path, stage⟩ t :=
  h.enter_eq.trans hs

/-- What is accepted wherever the walk goes from there is accepted with the fields in another order. -/
lemma Reordered.accepted_of_next (h : Reordered s s') (hs : Accepted root ⟨s, p, path, stage⟩)
    (hnext : (∀ b, Next root ⟨s, p, path, stage⟩ b → Accepted root b) →
      ∀ b, Next root ⟨s', p, path, stage⟩ b → Accepted root b) :
    Accepted root ⟨s', p, path, stage⟩ := by
  obtain ⟨hclean, hall⟩ := accepted_iff_next.1 hs
  exact accepted_iff_next.2 ⟨h.clean hclean, hnext hall⟩

/-- **Whether a spot is accepted does not depend on the order of fields.**

**Proof sketch.** By induction on how the order was changed. The spot itself is clean either way. Where
the walk goes from the new shape, it goes from the old one to a shape that differs in the order of fields
at most. -/
lemma Reordered.accepted (h : Reordered s s') (hs : Accepted root ⟨s, p, path, stage⟩) :
    Accepted root ⟨s', p, path, stage⟩ := by
  induction h generalizing p path stage with
  | refl s => exact hs
  | trans _ _ ih ih' => exact ih' (ih hs)
  | @fields waiver fields fields' h =>
    have hre : Reordered (.record waiver fields) (.record waiver fields') := .fields h
    refine hre.accepted_of_next hs fun hnext b hb => ?_
    cases hb with
    | field hmeets hkind hfield hmember hsub =>
      exact hnext _ (.field (hre.meets hmeets) hkind (h.mem_iff.2 hfield) hmember hsub)
  | @field waiver before behind l s s' h ih =>
    have hre : Reordered (.record waiver (before ++ (l, s) :: behind))
        (.record waiver (before ++ (l, s') :: behind)) := h.field
    refine hre.accepted_of_next hs fun hnext b hb => ?_
    cases hb with
    | field hmeets hkind hfield hmember hsub =>
      have hmeets := hre.meets hmeets
      rcases List.mem_append.1 hfield with hbefore | hbehind
      · exact hnext _ (.field hmeets hkind (List.mem_append_left _ hbefore) hmember hsub)
      · rcases List.mem_cons.1 hbehind with hfield | hbehind
        · cases hfield
          exact ih (hnext _ (.field hmeets hkind (by simp) hmember hsub))
        · refine hnext _ (.field hmeets hkind ?_ hmember hsub)
          exact List.mem_append_right _ (List.mem_cons_of_mem _ hbehind)
  | pointer h ih =>
    refine h.pointer.accepted_of_next hs fun hnext b hb => ?_
    cases hb with
    | behind hmeets => exact ih (hnext _ (.behind (h.pointer.meets hmeets)))
  | named h ih =>
    refine h.named.accepted_of_next hs fun hnext b hb => ?_
    cases hb with
    | named hmeets => exact ih (hnext _ (.named (h.named.meets hmeets)))
  | slice h ih =>
    refine h.slice.accepted_of_next hs fun hnext b hb => ?_
    cases hb with
    | slice hmeets hkind hitems => exact ih (hnext _ (.slice (h.slice.meets hmeets) hkind hitems))
  | array h ih =>
    refine h.array.accepted_of_next hs fun hnext b hb => ?_
    cases hb with
    | array hmeets hkind hitems => exact ih (hnext _ (.array (h.array.meets hmeets) hkind hitems))
  | map h ih =>
    refine h.map.accepted_of_next hs fun hnext b hb => ?_
    cases hb with
    | entry hmeets hkind hentry => exact ih (hnext _ (.entry (h.map.meets hmeets) hkind hentry))

/-- When a whole is accepted. -/
lemma check_eq_ok_iff :
    check root s = .ok () ↔ isAnything s = false ∧ Accepted root (.whole root s) := by
  cases s with
  | anything =>
    simp only [check, isAnything, Bool.true_eq_false, false_and, iff_false]
    split <;> exact nofun
  | primitive | raw | time | role | pointer | slice | array | map | record | named =>
    exact (and_iff_right rfl).symm

/-- Whether a whole is accepted does not depend on the order of fields. -/
lemma Reordered.check (h : Reordered s s') (hs : Drift.check root s = .ok ()) :
    Drift.check root s' = .ok () := by
  rw [check_eq_ok_iff] at hs ⊢
  have hanything : isAnything s' = isAnything s := by
    have hshows : ∀ s, isAnything (outline s) = isAnything s := fun s => by cases s <;> rfl
    rw [← hshows s, h.outline_eq, hshows]
  exact ⟨hanything.trans hs.1, h.accepted hs.2⟩

end

/-! ## What acceptance says about every spot -/

/-- The labels of a shape that is written as an object with members of its own. -/
def labels? : Shape → Option (List Label)
  | .record _ fields => some (fields.map (·.1))
  | .time => some []
  | _ => none

/-- Nothing is left to be looked at from a spot on. -/
structure Thorough (root : Schema) (a : Spot) : Prop where
  /-- The walk accepts the spot. -/
  accepted : Accepted root a
  /-- The names of the members that are written are the names of the properties. -/
  names : ∀ t labels, Meets root a t → t.kind = .object → labels? a.shape = some labels →
    ∀ name, name ∈ propertyNames t.schema ↔ ∃ l ∈ labels, ∃ m, l.member? = some m ∧ m.name = name
  /-- Members that are always written are required. -/
  required : ∀ t labels, Meets root a t → t.kind = .object → labels? a.shape = some labels →
    ∀ l ∈ labels, ∀ m, l.member? = some m → m.omitted = false → m.name ∈ t.schema.required
  /-- Every field that is written was accepted with the schema of its property. -/
  fields : ∀ t waiver fields, Meets root a t → t.kind = .object → a.shape = .record waiver fields →
    ∀ l s, (l, s) ∈ fields → ∀ m, l.member? = some m →
      ∃ sub, lookup? (t.schema.entries .properties) m.name = some sub ∧
        Accepted root ⟨s, a.place, .member m.name :: a.path, .arrival sub.schema? m.omitted⟩
  /-- A pointer below the root that is not passed over and not left out has a schema that admits null,
  if it has a schema. -/
  pointers : ∀ elem isSet, a.shape = .pointer elem isSet →
    ∃ sch omitted, a.stage = .arrival sch omitted ∧
      (a.path ≠ [] → waived a.shape a.place = .ok false → omitted = false →
        ∀ s, sch = some s → ∃ t, resolve root s = .ok t ∧ t.nullable = true)

section

variable {root : Schema} {a : Spot} {t : Target}

/-- The target that a clean spot meets agrees with it. -/
lemma Clean.agrees (h : Clean root a) (hmeets : Meets root a t) : Agrees t a.stage a.shape := by
  obtain ⟨met, hmet, hagrees⟩ := h
  exact hagrees t (Except.ok.inj (hmet.symm.trans hmeets))

/-- The labels of a shape that agrees with an object fit the properties.

**Proof sketch.** By the shape: only records and times have labels, and for both the agreement with
an object is about those. -/
lemma Agrees.matches {s : Shape} {stage : Stage} {labels : List Label} (h : Agrees t stage s)
    (hkind : t.kind = .object) (hlabels : labels? s = some labels) : Matches t.schema labels := by
  cases s with
  | record waiver fields =>
    obtain rfl := Option.some.inj hlabels
    exact (agrees_record_iff.1 h).2
  | time =>
    obtain rfl := Option.some.inj hlabels
    exact (agrees_time_iff hkind).1 h
  | primitive | anything | raw | role | pointer | slice | array | map | named => cases hlabels

/-- Labels that fit have the names of the properties. -/
lemma Matches.mem_propertyNames_iff {sch : Schema} {labels : List Label} (h : Matches sch labels)
    {name : String} :
    name ∈ propertyNames sch ↔ ∃ l ∈ labels, ∃ m, l.member? = some m ∧ m.name = name := by
  refine ⟨h.met name, ?_⟩
  rintro ⟨l, hl, m, hmember, rfl⟩
  obtain ⟨sub, hproperty⟩ := h.declared l hl m hmember
  refine Json.isSome_lookup?_iff.1 ?_
  rw [lookup?_of_property hproperty, Option.isSome_some]

/-- A pointer below the root is only let in if its schema admits null, unless it is passed over or left
out.

**Proof sketch.** By the order in which the walk asks. The schema is resolved, or else there would
be a failure, and a pointer below the root whose target does not admit null would be refused. -/
lemma nullable_of_enter {elem : Shape} {isSet : Bool} {p : Place} {path : Path} {sch : Schema}
    {met : Option Target} (hwaived : waived (.pointer elem isSet) p = .ok false) (hpath : path ≠ [])
    (h : enter root (.pointer elem isSet) p path (.arrival (some sch) false) = .ok met) :
    ∃ t, resolve root sch = .ok t ∧ t.nullable = true := by
  have hempty : path.isEmpty = false := List.isEmpty_eq_false_iff.2 hpath
  simp only [enter, hwaived] at h
  cases ht : resolve root sch with
  | error cause =>
    rw [ht] at h
    cases h
  | ok t =>
    refine ⟨t, rfl, ?_⟩
    cases hnull : t.nullable with
    | true => rfl
    | false =>
      simp only [ht, isPointer, hempty, hnull] at h
      cases h

/-- **An accepted spot is thorough.**

**Proof sketch.** The spot is clean, so a target that it meets agrees with it, and the walk accepts
what it goes to next. The first two statements are about labels that fit properties; the third is
about the next spots of a record; the last one is `nullable_of_enter`, since a pointer in front of a
target fits nothing. -/
lemma Accepted.thorough (h : Accepted root a) : Thorough root a := by
  obtain ⟨hclean, hnext⟩ := accepted_iff_next.1 h
  refine ⟨h, fun t labels hmeets hkind hlabels name => ?_, fun t labels hmeets hkind hlabels => ?_,
    fun t waiver fields hmeets hkind hshape => ?_, fun elem isSet hshape => ?_⟩
  · exact ((hclean.agrees hmeets).matches hkind hlabels).mem_propertyNames_iff
  · intro l hl m hmember homitted
    obtain ⟨sub, hproperty⟩ :=
      ((hclean.agrees hmeets).matches hkind hlabels).declared l hl m hmember
    exact (property_eq_ok_iff.1 hproperty).2.resolve_left (by simp [homitted])
  · intro l s hfield m hmember
    obtain ⟨shape, p, path, stage⟩ := a
    obtain rfl : shape = .record waiver fields := hshape
    have hmatches := (agrees_record_iff.1 (hclean.agrees hmeets)).2
    obtain ⟨sub, hproperty⟩ := hmatches.declared l (List.mem_map_of_mem hfield) m hmember
    have hsub := lookup?_of_property hproperty
    exact ⟨sub, hsub, hnext _ (.field hmeets hkind hfield hmember hsub)⟩
  · obtain ⟨shape, p, path, stage⟩ := a
    obtain rfl : shape = .pointer elem isSet := hshape
    cases stage with
    | arrival sch omitted =>
      refine ⟨sch, omitted, rfl, fun hpath hwaived homitted s hsch => ?_⟩
      obtain ⟨met, hmet, -⟩ := hclean
      subst homitted hsch
      exact nullable_of_enter hwaived hpath hmet
    | resolved t =>
      -- a pointer behind a pointer fits nothing
      cases hclean.agrees rfl with
      | leaf hfits =>
        exact absurd hfits (not_fits rfl rfl (show "ptr" ≠ Primitive.bool.name by decide))

end

/-- **The check misses no field and no property, in any order.** A reordering of fields, at any depth,
does not decide whether a value is accepted, and in an accepted one every spot that the check comes
to is thorough.

**Proof sketch.** A reordering can be taken back, and each direction keeps the check clean. A check
that succeeds is clean at every spot that it reaches, and a clean spot is thorough. -/
theorem check_thorough (root : Schema) (s : Shape) :
    (∀ s', Reordered s s' → (check root s' = .ok () ↔ check root s = .ok ())) ∧
      (check root s = .ok () → ∀ a, Reaches root (.whole root s) a → Thorough root a) :=
  ⟨fun _ h => ⟨h.symm.check, h.check⟩, fun h _ ha => ((check_eq_ok_iff.1 h).2.reaches ha).thorough⟩

/-- A record with its fields the other way round is accepted, and the check comes to the pointer in
it.

**Proof sketch.** The check accepts the record by evaluation. Its second field is one of the next
spots of the whole, so that it is reached. -/
theorem check_thorough_linked :
    Reordered (.record .none linked) (.record .none linked.reverse) ∧
      check linking (.record .none linked) = .ok () ∧
      check linking (.record .none linked.reverse) = .ok () ∧
      ∃ a, Reaches linking (.whole linking (.record .none linked)) a ∧ isPointer a.shape = true ∧
        a.path = [.member "next"] ∧ Thorough linking a := by
  obtain ⟨hsame, hthorough⟩ := check_thorough linking (.record .none linked)
  have hre : Reordered (.record .none linked) (.record .none linked.reverse) :=
    .fields (List.reverse_perm linked).symm
  have hcheck : check linking (.record .none linked) = .ok () := by decide +kernel
  have hmeets : Meets linking ⟨.record .none linked, .root, [], .arrival (some linking) false⟩
      ⟨linking, .object, false⟩ := rfl
  have hreaches := Relation.ReflTransGen.single (Next.field hmeets rfl
    (List.mem_cons_of_mem _ List.mem_cons_self) linked_tags.2.1 rfl)
  exact ⟨hre, hcheck, (hsame _ hre).2 hcheck, _, hreaches, rfl, rfl, hthorough hcheck _ hreaches⟩

end SchemaKit.Drift
