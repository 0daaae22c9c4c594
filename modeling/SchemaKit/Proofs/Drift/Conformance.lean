import SchemaKit.Drift.Basic
import SchemaKit.Proofs.Drift.Writing
import SchemaKit.Proofs.Json.Sorted

/-!
# Data that conforms to a schema

The walk compares a shape with a schema without looking at data. If it finds no disagreement, then data
of the shape is written with declared members only, and every value has a kind that its schema admits.
Whether required members are there is another matter: the walk asks that members which are always
written are required, and not that members which are required are always written. With that condition,
and only with it, all data conforms.

## Main definitions

* `SchemaKit.Drift.Conforms` — values that are as a schema says, at every depth of objects.
* `SchemaKit.Drift.Covered` — required members are always written, at every depth of records.

## Main results

* `SchemaKit.Drift.walk_named` — a name that says nothing changes nothing.
* `SchemaKit.Drift.sound_walk` — what the walk accepts and is covered conforms.
* `SchemaKit.Drift.covered_of_conforms` — if all data conforms, required members are covered.
* `SchemaKit.Drift.conforms_iff_covered` — when all data of an accepted shape conforms.
* `SchemaKit.Drift.omittable_accepted` — an accepted shape with data that does not conform.
-/

namespace SchemaKit.Drift

open Validation (Kind)
open Schema (Sub)
open Shape (Datum FieldsDatum Plain plainFields WellTagged wellTaggedFields write writeFields isEmpty
  isZero areZero leftOut)
open Json (lookup?)

/-! ## Conformance -/

/-- A value is as a schema says. A place without a schema says nothing. Otherwise the value has a kind
that the schema admits, and null needs a schema that admits null. In an object the required members are
there, no members but declared ones are, and the values of members are as their schemas say. -/
inductive Conforms (root : Schema) : Option Schema → Json → Prop
  | unspecified (v : Json) : Conforms root none v
  | null {sch : Schema} {t : Target} (ht : resolve root sch = .ok t) (hnull : t.nullable = true) :
      Conforms root (some sch) .null
  | simple {sch : Schema} {t : Target} {v : Json} (ht : resolve root sch = .ok t)
      (hv : Kind.of v ≠ .object) (hkind : t.kind.admits (Kind.of v) = true) :
      Conforms root (some sch) v
  | object {sch : Schema} {t : Target} {members : List (String × Json)}
      (ht : resolve root sch = .ok t) (hkind : t.kind = .object)
      (hrequired : ∀ name ∈ t.schema.required, name ∈ members.map (·.1))
      (hdeclared : ∀ m ∈ members, m.1 ∈ propertyNames t.schema)
      (hvalues : ∀ m ∈ members, ∀ sub, lookup? (t.schema.entries .properties) m.1 = some sub →
        Conforms root sub.schema? m.2) :
      Conforms root (some sch) (.obj members)

/-- Whether a field is written with any data. -/
def alwaysWritten (m : Member) (s : Shape) : Bool := !m.omitted || s.isRecord

mutual

/-- Wherever a record meets a schema, every required member is one that a field is always written
to. -/
def Covered (root : Schema) : Shape → Option Schema → Prop
  | .pointer elem _, sch => Covered root elem sch
  | .named _ base, sch => Covered root base sch
  | .record _ fields, some sch =>
    ∀ t, resolve root sch = .ok t →
      (∀ name ∈ t.schema.required, ∃ f ∈ fields, ∃ m, f.1.member? = some m ∧ m.name = name ∧
        alwaysWritten m f.2 = true) ∧
      coveredFields root t.schema fields
  | _, _ => True

/-- Field by field, each with the schema of its property. -/
def coveredFields (root sch : Schema) : List (Label × Shape) → Prop
  | [] => True
  | (l, s) :: rest =>
    (∀ m sub, l.member? = some m → lookup? (sch.entries .properties) m.name = some sub →
      Covered root s sub.schema?) ∧
    coveredFields root sch rest

end

/-! ## Primitives -/

/-- The kinds that a primitive fits.

**Proof sketch.** By cases on the kind. Each kind asks one question, and for truth values and texts
only one primitive answers it. -/
lemma fits_primitive {k : Kind} {p : Primitive} (h : fits k (.primitive p) = .ok ()) :
    (k = .boolean ∧ p = .bool) ∨ (k = .string ∧ p = .string) ∨
      (k = .integer ∧ p.isInteger = true) ∨
      (k = .number ∧ (p.isInteger = true ∨ p.isFloat = true)) := by
  have hdemand : ∀ {met : Bool} {cause : Cause},
      (if met then .ok () else .error cause : Except Cause Unit) = .ok () → met = true := by
    intro met cause hmet
    cases met with
    | true => rfl
    | false => cases hmet
  cases k with
  | boolean =>
    have hbool : (p.name == Primitive.bool.name) = true := hdemand h
    refine .inl ⟨rfl, ?_⟩
    cases p <;> first | rfl | exact absurd hbool (by decide)
  | string =>
    have htext : Shape.isText (.primitive p) = true := hdemand h
    refine .inr (.inl ⟨rfl, ?_⟩)
    cases p <;> first | rfl | exact absurd htext (by decide)
  | integer => exact .inr (.inr (.inl ⟨rfl, hdemand h⟩))
  | number =>
    have hnumber : (p.isInteger || p.isFloat) = true := hdemand h
    exact .inr (.inr (.inr ⟨rfl, Bool.or_eq_true_iff.1 hnumber⟩))
  | object | array => exact absurd h (by simp [fits])
  | null => cases h

/-- Integers are written as integers. -/
lemma kindOf_write_integer {p : Primitive} (h : p.isInteger = true) (d : p.Datum) :
    Kind.of (p.write d) = .integer := by
  have hint : ∀ i : Int, Kind.of (.int i) = .integer := by
    intro i
    rw [Json.int, Kind.of, if_pos (Json.Numeral.isInteger_ofInt i)]
  cases p with
  | int | int8 | int16 | int32 | int64 | uint | uint8 | uint16 | uint32 | uint64 => exact hint _
  | bool | uintptr | float32 | float64 | complex128 | string | func | chan => cases h

/-- Floating-point numbers are written as numbers, some of them as integers.

**Proof sketch.** A number has one of these two kinds, whatever its literal is, and only two
primitives are floating-point numbers. -/
lemma kindOf_write_float {p : Primitive} (h : p.isFloat = true) (d : p.Datum) :
    Kind.of (p.write d) = .integer ∨ Kind.of (p.write d) = .number := by
  have hnum : ∀ n : Json.Numeral, Kind.of (.num n) = .integer ∨ Kind.of (.num n) = .number := by
    intro n
    rw [Kind.of]
    split
    · exact .inl rfl
    · exact .inr rfl
  cases p with
  | float32 | float64 => exact hnum _
  | int | int8 | int16 | int32 | int64 | uint | uint8 | uint16 | uint32 | uint64 | bool | uintptr
  | complex128 | string | func | chan => cases h

/-- **A primitive that fits a kind is written with that kind.**

**Proof sketch.** By the kinds that a primitive can fit: a text, a flag, an integer or a number. An
integer is a number as well, and a float may be written as either. -/
lemma admits_write {k : Kind} {p : Primitive} (h : fits k (.primitive p) = .ok ()) (d : p.Datum) :
    k.admits (Kind.of (p.write d)) = true ∧ Kind.of (p.write d) ≠ .object := by
  obtain ⟨rfl, rfl⟩ | ⟨rfl, rfl⟩ | ⟨rfl, hp⟩ | ⟨rfl, hp⟩ := fits_primitive h
  · exact ⟨rfl, nofun⟩
  · exact ⟨rfl, nofun⟩
  · rw [kindOf_write_integer hp]
    decide
  · have hkind : Kind.of (p.write d) = .integer ∨ Kind.of (p.write d) = .number :=
      hp.elim (fun hp => .inl (kindOf_write_integer hp d)) (fun hp => kindOf_write_float hp d)
    rcases hkind with hkind | hkind <;> rw [hkind] <;> decide

/-- What a shape without parts fits, if it is accepted. -/
lemma fits_of_leaf {t : Target} {s : Shape} {path : Path} (h : leaf t s path = .ok ()) :
    fits t.kind s = .ok () := by
  unfold leaf at h
  split at h
  · next hfits => exact hfits
  · cases h

/-- Records and pointers fit no kind. -/
lemma leaf_ne_ok {t : Target} {s : Shape} {path : Path} (hinteger : s.isNumber = false)
    (htext : s.isText = false) (hkind : s.kind ≠ Primitive.bool.name) : leaf t s path ≠ .ok () := by
  intro h
  have hfits := fits_of_leaf h
  have hnumber : s.isInteger = false := by
    cases s with
    | primitive p => exact (Bool.or_eq_false_iff.1 hinteger).1
    | anything | raw | time | role | pointer | slice | array | map | record | named => rfl
  cases hk : t.kind <;> simp [fits, hk, hinteger, htext, hkind, hnumber] at hfits

/-! ## The walk over plain shapes -/

section

variable {root : Schema} {s : Shape} {p : Place} {path : Path}

/-- Plain shapes say nothing about whether they are to be passed over. -/
lemma waiver_eq (h : s.Plain) : s.waiver = .none := by
  cases s with
  | record waiver fields => exact h.1
  | named waiver base => exact h.1
  | primitive | pointer | anything | raw | time | role | slice | array | map => rfl

/-- A shape that says nothing does not ask to be passed over. -/
lemma waived_of_waiver (hwaiver : s.waiver = .none) (hpointer : isPointer s = false) :
    waived s p = .ok false := by
  unfold waived
  split
  · cases hpointer
  · rw [hwaiver]

/-- Plain shapes do not ask to be passed over. -/
lemma waived_eq (h : s.Plain) : waived s p = .ok false := by
  cases hpointer : isPointer s with
  | false => exact waived_of_waiver (waiver_eq h) hpointer
  | true =>
    cases s with
    | pointer elem isSet =>
      have helem : elem.Plain := h
      simp only [waived, waiver_eq helem]
    | primitive | anything | raw | time | role | slice | array | map | record | named => cases hpointer

/-- Where the walk meets a schema it goes on with the target of the schema. A pointer to which something
leads needs a schema that admits null, or may be left out.

**Proof sketch.** A plain shape is not passed over, so that the schema is resolved. Each failure on
the way would be the result of the walk. A pointer is let in under the condition that is stated. -/
lemma enter_of_walk {sch : Schema} {omitted : Bool} (h : s.Plain)
    (hwalk : walk root s p path (.arrival (some sch) omitted) = .ok ()) :
    ∃ t, resolve root sch = .ok t ∧
      enter root s p path (.arrival (some sch) omitted) = .ok (some t) ∧
      (isPointer s = true → path ≠ [] → t.nullable = true ∨ omitted = true) := by
  rw [walk] at hwalk
  cases ht : resolve root sch with
  | error cause =>
    have henter : enter root s p path (.arrival (some sch) omitted) = .error (.found path cause) := by
      simp only [enter, waived_eq h, ht]
      rfl
    rw [henter] at hwalk
    cases hwalk
  | ok t =>
    have henter : enter root s p path (.arrival (some sch) omitted) =
        if isPointer s && !path.isEmpty && !t.nullable && !omitted then
          .error (.found path .notNullable)
        else .ok (some t) := by
      simp only [enter, waived_eq h, ht]
      rfl
    split at henter
    · rw [henter] at hwalk
      cases hwalk
    · next hnullable =>
      refine ⟨t, rfl, henter, fun hpointer hpath => ?_⟩
      simp only [hpointer, Bool.true_and, Bool.and_eq_true, Bool.not_eq_true', not_and,
        List.isEmpty_eq_false_iff] at hnullable
      by_cases hnull : t.nullable = true
      · exact .inl hnull
      · exact .inr (by simpa using hnullable ⟨hpath, by simpa using hnull⟩)

/-- Shapes other than pointers are compared with the target at once. -/
lemma walk_eq_resolved {stage : Stage} {t : Target} (hs : isPointer s = false)
    (henter : enter root s p path stage = .ok (some t)) :
    walk root s p path stage = walk root s p path (.resolved t) := by
  have hresolved : enter root s p path (.resolved t) = .ok (some t) := rfl
  cases s with
  | pointer => cases hs
  | primitive | anything | raw | time | role | slice | array | map | record | named =>
    rw [walk, walk, henter, hresolved]

/-- **A name that says nothing changes nothing**: a named shape is compared like the shape that it names,
as long as this one says nothing itself.

**Proof sketch.** Both are compared with the same target, if there is one. The named shape hands the target
on, and the other one is compared with it at once, because it is no pointer. -/
theorem walk_named (hwaiver : s.waiver = .none) (hpointer : isPointer s = false)
    (hanything : isAnything s = false) (stage : Stage) :
    walk root (.named .none s) p path stage = walk root s p path stage := by
  have henter : enter root (.named .none s) p path stage = enter root s p path stage := by
    cases stage with
    | resolved t => rfl
    | arrival sch omitted =>
      simp only [enter, waived_of_waiver hwaiver hpointer, hpointer, hanything]
      rfl
  rw [walk, henter]
  cases hmet : enter root s p path stage with
  | error f => rw [walk, hmet]
  | ok met =>
    cases met with
    | none => rw [walk, hmet]
    | some t => exact (walk_eq_resolved hpointer hmet).symm

end

/-! ## Soundness -/

/-- The property that a member belongs to is declared. -/
lemma lookup?_of_property {sch : Schema} {m : Member} {sub : Sub} (h : property sch m = .ok sub) :
    lookup? (sch.entries .properties) m.name = some sub := by
  unfold property at h
  split at h
  · cases h
  · next hlookup =>
    split at h <;> cases h
    exact hlookup

/-- A field that is always written is a member of what is written.

**Proof sketch.** By recursion on the fields. The field itself is not left out: either its tag does
not ask for it, or it is a record and never empty. Fields before it only add members. -/
lemma mem_keys_writeFields : ∀ {fields : List (Label × Shape)} (ds : FieldsDatum fields),
    wellTaggedFields fields → ∀ f ∈ fields, ∀ m, f.1.member? = some m →
      alwaysWritten m f.2 = true → m.name ∈ (writeFields fields ds).map (·.1)
  | [], _, _ => nofun
  | (l, s) :: rest, (d, ds), htags => by
    obtain ⟨⟨hname, hzero⟩, -, hrest⟩ := htags
    intro f hf m hm halways
    rw [writeFields]
    rcases List.mem_cons.1 hf with rfl | hf
    · have hwritten : leftOut l m s d = false := by
        rw [Shape.leftOut_eq hzero]
        rcases Bool.or_eq_true_iff.1 halways with homitted | hrecord
        · have homitted : m.omitted = false := by simpa using homitted
          rw [homitted, Bool.false_and]
        · rw [Shape.isEmpty_of_isRecord d hrecord, Bool.and_false]
      rw [hname, hm]
      simp only [hwritten]
      exact List.mem_cons_self
    · have hmem := mem_keys_writeFields ds hrest f hf m hm halways
      split
      · exact hmem
      · split
        · exact hmem
        · exact List.mem_cons_of_mem _ hmem

/-- What the walk accepts conforms, both in front of a target and before a place of a schema. Before a
place, data that is left out there is not written, and only pointers at members may be null. -/
structure Sound (root : Schema) (s : Shape) : Prop where
  resolved : ∀ {p : Place} {path : Path} {sch : Schema} {t : Target},
    walk root s p path (.resolved t) = .ok () → resolve root sch = .ok t →
    Covered root s (some sch) → ∀ d, Conforms root (some sch) (write s d)
  arrival : ∀ {p : Place} {path : Path} {sch : Option Schema} {omitted : Bool},
    walk root s p path (.arrival sch omitted) = .ok () → isPointer s = false ∨ path ≠ [] →
    Covered root s sch → ∀ d, (omitted && isEmpty s d) = false → Conforms root sch (write s d)

/-- For shapes other than pointers it is enough to look at targets.

**Proof sketch.** Before a place without a schema there is nothing to show. Otherwise the walk goes
on with the target of the schema, because the shape is no pointer. -/
lemma Sound.of_resolved {root : Schema} {s : Shape} (hplain : s.Plain) (hs : isPointer s = false)
    (h : ∀ {p : Place} {path : Path} {sch : Schema} {t : Target},
      walk root s p path (.resolved t) = .ok () → resolve root sch = .ok t →
      Covered root s (some sch) → ∀ d, Conforms root (some sch) (write s d)) : Sound root s where
  resolved := h
  arrival := by
    intro p path sch omitted hwalk _ hcovered d _
    cases sch with
    | none => exact .unspecified _
    | some sch =>
      obtain ⟨t, ht, henter, -⟩ := enter_of_walk hplain hwalk
      rw [walk_eq_resolved hs henter] at hwalk
      exact h hwalk ht hcovered d

mutual

/-- **What the walk accepts and is covered conforms.**

**Proof sketch.** By recursion over the shape. A primitive has a kind that its target admits. A record
is written as an object; its members are declared because each field has a property, and required
members are there because they are covered. A pointer is null only where its target admits null, for
otherwise it would be left out, and what lies behind it is compared with the same target. -/
theorem sound_walk (root : Schema) : ∀ {s : Shape}, s.Plain → s.WellTagged → Sound root s
  | .primitive p, hplain, _ => by
    refine Sound.of_resolved hplain rfl fun hwalk ht _ d => ?_
    rw [walk] at hwalk
    obtain ⟨hkind, hobject⟩ := admits_write (fits_of_leaf hwalk) d
    exact .simple ht hobject hkind
  | .record waiver fields, hplain, htags => by
    refine Sound.of_resolved hplain rfl fun {p path sch t} hwalk ht hcovered ds => ?_
    obtain ⟨hrequired, hfields⟩ := hcovered t ht
    rw [walk] at hwalk
    dsimp only [enter] at hwalk
    split at hwalk
    · next hkind =>
      split at hwalk
      · cases hwalk
      · split at hwalk
        · cases hwalk
        · next hok =>
          have hmembers := sound_walkFields root hplain.2.2 htags hok hfields ds
          refine .object ht hkind (fun name hname => ?_) (fun m hm => (hmembers m hm).1)
            (fun m hm => (hmembers m hm).2)
          obtain ⟨f, hf, m, hm, rfl, halways⟩ := hrequired name hname
          exact mem_keys_writeFields ds htags f hf m hm halways
    · exact absurd hwalk (leaf_ne_ok rfl rfl (show "struct" ≠ Primitive.bool.name by decide))
  | .named waiver base, hplain, htags => by
    have hbase : Sound root base := sound_walk root hplain.2 htags
    refine Sound.of_resolved hplain rfl fun hwalk ht hcovered d => ?_
    rw [walk] at hwalk
    exact hbase.resolved hwalk ht hcovered d
  | .pointer elem isSet, hplain, htags => by
    have helem : Sound root elem := sound_walk root hplain htags
    refine ⟨fun hwalk _ _ _ => ?_, fun {p path sch omitted} hwalk hpath hcovered d hleft => ?_⟩
    · rw [walk] at hwalk
      exact absurd hwalk (leaf_ne_ok rfl rfl (show "ptr" ≠ Primitive.bool.name by decide))
    · cases sch with
      | none => exact .unspecified _
      | some sch =>
        obtain ⟨t, ht, henter, hnullable⟩ := enter_of_walk hplain hwalk
        cases d with
        | none =>
          have homitted : omitted = false := by
            cases omitted with
            | true => cases hleft
            | false => rfl
          have hnull := hnullable rfl (hpath.resolve_left (by simp [isPointer]))
          exact .null ht (hnull.resolve_right (by simp [homitted]))
        | some d =>
          rw [walk, henter] at hwalk
          exact helem.resolved hwalk ht hcovered d

/-- The members that accepted fields are written to are declared, and their values conform.

**Proof sketch.** By recursion on the fields. A field without a member writes nothing. Otherwise the
member has a property, which is declared, and the value conforms to its schema because the walk
accepted the field there; a field that is left out writes nothing either. -/
theorem sound_walkFields (root : Schema) : ∀ {fields : List (Label × Shape)}, plainFields fields →
    wellTaggedFields fields → ∀ {sch : Schema} {p : Place} {path : Path},
    walkFields root sch fields p path = .ok () → coveredFields root sch fields → ∀ ds,
    ∀ m ∈ writeFields fields ds, m.1 ∈ propertyNames sch ∧
      ∀ sub, lookup? (sch.entries .properties) m.1 = some sub → Conforms root sub.schema? m.2
  | [], _, _, _, _, _, _, _, _ => nofun
  | (l, s) :: rest, ⟨_, hs, hrest⟩, ⟨⟨hname, hzero⟩, hstags, hresttags⟩, sch, p, path, hwalk,
      ⟨hcovered, hrestcovered⟩, (d, ds) => by
    rw [walkFields] at hwalk
    rw [writeFields, hname]
    cases hmember : l.member? with
    | none =>
      rw [hmember] at hwalk
      exact sound_walkFields root hrest hresttags hwalk hrestcovered ds
    | some m =>
      rw [hmember] at hwalk
      dsimp only at hwalk ⊢
      split at hwalk
      · cases hwalk
      · next sub hproperty =>
        have hlookup := lookup?_of_property hproperty
        split at hwalk
        · cases hwalk
        · next hok =>
          have hmembers := sound_walkFields root hrest hresttags hwalk hrestcovered ds
          split
          · exact hmembers
          · next hleft =>
            rw [Shape.leftOut_eq hzero, Bool.not_eq_true] at hleft
            have hvalue : Conforms root sub.schema? (write s d) :=
              (sound_walk root hs hstags).arrival hok (.inr (List.cons_ne_nil _ _))
                (hcovered m sub hmember hlookup) d hleft
            refine List.forall_mem_cons.2 ⟨⟨?_, fun sub' hsub' => ?_⟩, hmembers⟩
            · exact Json.isSome_lookup?_iff.1 (by rw [hlookup]; rfl)
            · obtain rfl : sub = sub' := Option.some.inj (hlookup.symm.trans hsub')
              exact hvalue

end

/-! ## Necessity -/

/-- What is said about an object that conforms.

**Proof sketch.** By the way the object conforms. The target is the one that the reference leads to. -/
lemma Conforms.object_inv {root sch : Schema} {members : List (String × Json)}
    (h : Conforms root (some sch) (.obj members)) {t : Target} (ht : resolve root sch = .ok t) :
    (∀ name ∈ t.schema.required, name ∈ members.map (·.1)) ∧
      ∀ m ∈ members, ∀ sub, lookup? (t.schema.entries .properties) m.1 = some sub →
        Conforms root sub.schema? m.2 := by
  cases h with
  | simple _ hv _ => exact absurd rfl hv
  | object ht' _ hrequired _ hvalues =>
    obtain rfl := Except.ok.inj (ht.symm.trans ht')
    exact ⟨hrequired, hvalues⟩

/-- A member that is written with zero data belongs to a field that is always written.

**Proof sketch.** By recursion on the fields. Zero data is empty unless it is that of a record, so a
field whose member is written does not ask to be left out, or is a record. In both cases it is
always written. -/
lemma exists_alwaysWritten : ∀ {fields : List (Label × Shape)} (ds : FieldsDatum fields),
    wellTaggedFields fields → areZero fields ds = true →
    ∀ name ∈ (writeFields fields ds).map (·.1), ∃ f ∈ fields, ∃ m, f.1.member? = some m ∧
      m.name = name ∧ alwaysWritten m f.2 = true
  | [], _, _, _ => nofun
  | (l, s) :: rest, (d, ds), htags, hds => by
    obtain ⟨⟨hlabel, hzero⟩, -, hrest⟩ := htags
    rw [areZero, Bool.and_eq_true] at hds
    intro name hmem
    have hlater : name ∈ (writeFields rest ds).map (·.1) → ∃ f ∈ (l, s) :: rest, ∃ m,
        f.1.member? = some m ∧ m.name = name ∧ alwaysWritten m f.2 = true := by
      intro hmem
      obtain ⟨f, hf, hm⟩ := exists_alwaysWritten ds hrest hds.2 name hmem
      exact ⟨f, List.mem_cons_of_mem _ hf, hm⟩
    rw [writeFields, hlabel] at hmem
    split at hmem
    · exact hlater hmem
    · next m hm =>
      split at hmem
      · exact hlater hmem
      · next hleft =>
        rcases List.mem_cons.1 hmem with rfl | hmem
        · rw [Shape.leftOut_eq hzero, Shape.isEmpty_eq hds.1, Bool.not_eq_true] at hleft
          have halways : alwaysWritten m s = !(m.omitted && !s.isRecord) := by
            rw [alwaysWritten, Bool.not_and, Bool.not_not]
          exact ⟨(l, s), List.mem_cons_self, m, hm, rfl, by rw [halways, hleft]; rfl⟩
        · exact hlater hmem

mutual

/-- **If all data conforms, required members are covered.** Data that is empty may be left out and is
not asked for.

**Proof sketch.** By recursion over the shape. Zero data of a record leaves out every field that can
be left out, so a required member that is still there belongs to a field that is always written. For
the data of one field, the other fields are set to zero. -/
theorem covered_of_conforms (root : Schema) : ∀ {s : Shape}, s.Plain → s.WellTagged →
    ∀ {sch : Option Schema}, (∀ d, isEmpty s d = false → Conforms root sch (write s d)) →
    Covered root s sch
  | .primitive _, _, _, _, _ => trivial
  | .pointer elem isSet, hplain, htags, sch, h => by
    have helem : elem.Plain := hplain
    have helemtags : elem.WellTagged := htags
    exact covered_of_conforms root helem helemtags fun d _ => h (some d) rfl
  | .named waiver base, hplain, htags, sch, h =>
    covered_of_conforms root (s := base) hplain.2 htags h
  | .record waiver fields, _, _, none, _ => trivial
  | .record waiver fields, hplain, htags, some sch, h => by
    intro t ht
    constructor
    · intro name hname
      obtain ⟨ds, hds⟩ := Shape.exists_areZero hplain.2.2
      have hobject : Conforms root (some sch) (.obj (writeFields fields ds)) := h ds rfl
      exact exists_alwaysWritten ds htags hds name ((hobject.object_inv ht).1 name hname)
    · refine coveredFields_of_conforms root hplain.2.2 htags fun ds => ?_
      have hobject : Conforms root (some sch) (.obj (writeFields fields ds)) := h ds rfl
      exact (hobject.object_inv ht).2

/-- Field by field.

**Proof sketch.** By recursion on the fields. For data of the first field, the others are set to
zero, and the member of the field is among those that are written unless the data is empty. For data
of the other fields, the first one is set to zero. -/
theorem coveredFields_of_conforms (root : Schema) : ∀ {fields : List (Label × Shape)},
    plainFields fields → wellTaggedFields fields → ∀ {sch : Schema},
    (∀ ds, ∀ m ∈ writeFields fields ds, ∀ sub,
      lookup? (sch.entries .properties) m.1 = some sub → Conforms root sub.schema? m.2) →
    coveredFields root sch fields
  | [], _, _, _, _ => trivial
  | (l, s) :: rest, ⟨_, hs, hrest⟩, ⟨⟨hname, hzero⟩, hstags, hresttags⟩, sch, h => by
    constructor
    · intro m sub hm hsub
      obtain ⟨ds, -⟩ := Shape.exists_areZero hrest
      refine covered_of_conforms root hs hstags fun d hd => ?_
      refine h (d, ds) (m.name, write s d) ?_ sub hsub
      have hleft : leftOut l m s d = false := by
        rw [Shape.leftOut_eq hzero, hd, Bool.and_false]
      rw [writeFields, hname, hm]
      simp only [hleft]
      exact List.mem_cons_self
    · obtain ⟨d, -⟩ := Shape.exists_isZero hs
      refine coveredFields_of_conforms root hrest hresttags fun ds m hm => h (d, ds) m ?_
      rw [writeFields]
      split
      · exact hm
      · split
        · exact hm
        · exact List.mem_cons_of_mem _ hm

end

/-- **When all data of an accepted shape conforms**: a plain, well-tagged record that the check accepts
is written as its schema says, whatever its data is, if and only if at every depth the required members
are such that fields are always written to them.

**Proof sketch.** From left to right it is `covered_of_conforms`. From right to left the walk is
sound for every shape, by `sound_walk`, and the root is where it arrives first. -/
theorem conforms_iff_covered {root : Schema} {fields : List (Label × Shape)}
    (hcheck : check root (.record .none fields) = .ok ())
    (hplain : (Shape.record .none fields).Plain)
    (htags : (Shape.record .none fields).WellTagged) :
    (∀ d, Conforms root (some root) (write (.record .none fields) d)) ↔
      Covered root (.record .none fields) (some root) := by
  constructor
  · intro h
    exact covered_of_conforms root hplain htags fun d _ => h d
  · intro hcovered d
    exact (sound_walk root hplain htags).arrival hcheck (.inl rfl) hcovered d rfl

/-! ## Examples -/

/-- A schema of texts. -/
def textSchema : Schema := .mk [(.type, .data (.str "string"))] []

/-- A field that is left out when it is empty. -/
def omittable : Label := ⟨"A", "json:\"a,omitempty\""⟩

/-- What the tag of the field says. -/
lemma omittable_tag : omittable.member? = some ⟨"a", true⟩ ∧ omittable.written? = some ⟨"a", true⟩ ∧
    omittable.options = ["omitempty"] := by decide +kernel

/-- A schema of objects with a number and with an object behind a reference, which may be null. -/
def linking : Schema :=
  .mk [(.required, .data (.arr [.str "id", .str "next"])),
    (.definitions, .named [("Node", .schema (.mk [(.properties, .named [("a", .schema textSchema)]),
      (.type, .data (.str "object"))] []))]),
    (.properties, .named [("id", .schema (.mk [(.type, .data (.str "integer"))] [])),
      ("next", .schema (.mk [(.oneOf, .list [.schema (.mk [(.type, .data (.str "null"))] []),
        .schema (.mk [(.ref, .data (.str "#/definitions/Node"))] [])])] []))]),
    (.type, .data (.str "object"))] []

/-- A field with a number. -/
def identity : Label := ⟨"ID", "json:\"id\""⟩

/-- A field with a link. -/
def link : Label := ⟨"Next", "json:\"next\""⟩

/-- What the tags of these fields say. -/
lemma linked_tags : (identity.member? = some ⟨"id", false⟩ ∧ identity.written? = some ⟨"id", false⟩ ∧
      identity.options = [""]) ∧
    link.member? = some ⟨"next", false⟩ ∧ link.written? = some ⟨"next", false⟩ ∧
      link.options = [""] := by decide +kernel

/-- The fields of a record with a pointer to a record that can be empty. -/
def linked : List (Label × Shape) :=
  [(identity, .primitive .int),
    (link, .pointer (.record .none [(omittable, .primitive .string)]) false)]

/-- All data of the record conforms: its required members are always written, and the object behind the
reference requires none.

**Proof sketch.** The tags of the fields are known, so the record is plain and well tagged, and the
check accepts it by evaluation. It is covered: both required members belong to fields without an
option, and the schema behind the reference requires nothing. -/
theorem conforms_iff_covered_linked :
    check linking (.record .none linked) = .ok () ∧ (Shape.record .none linked).Plain ∧
      (Shape.record .none linked).WellTagged ∧
      ∀ d, Conforms linking (some linking) (write (.record .none linked) d) := by
  obtain ⟨hmember, hwritten, hoptions⟩ := omittable_tag
  obtain ⟨⟨hidMember, hidWritten, hidOptions⟩, hlinkMember, hlinkWritten, hlinkOptions⟩ :=
    linked_tags
  have hcheck : check linking (.record .none linked) = .ok () := by decide +kernel
  have hplain : (Shape.record .none linked).Plain := by
    refine ⟨rfl, ?_, ⟨by decide, by simp [hidOptions]⟩, rfl, ⟨by decide, by simp [hlinkOptions]⟩,
      ⟨rfl, ?_, ⟨by decide, by simp [hoptions]⟩, rfl, trivial⟩, trivial⟩
    · simp [linked, hidWritten, hlinkWritten]
    · simp [hwritten]
  have htags : (Shape.record .none linked).WellTagged := by
    refine ⟨⟨by rw [hidWritten, hidMember], by simp [hidOptions]⟩, trivial,
      ⟨by rw [hlinkWritten, hlinkMember], by simp [hlinkOptions]⟩, ?_, trivial⟩
    exact ⟨⟨by rw [hwritten, hmember], by simp [hoptions]⟩, trivial, trivial⟩
  refine ⟨hcheck, hplain, htags, (conforms_iff_covered hcheck hplain htags).2 ?_⟩
  intro t ht
  obtain rfl : t = ⟨linking, .object, false⟩ := Except.ok.inj (ht.symm.trans rfl)
  refine ⟨fun name hname => ?_, fun _ _ _ _ => trivial, fun m sub hm hsub => ?_, trivial⟩
  · have hnames : linking.required = ["id", "next"] := rfl
    rw [hnames] at hname
    simp only [List.mem_cons, List.not_mem_nil, or_false] at hname
    rcases hname with rfl | rfl
    · exact ⟨_, List.mem_cons_self, _, hidMember, rfl, rfl⟩
    · exact ⟨_, List.mem_cons_of_mem _ List.mem_cons_self, _, hlinkMember, rfl, rfl⟩
  · obtain rfl : m = ⟨"next", false⟩ := Option.some.inj (hm.symm.trans hlinkMember)
    obtain rfl := Option.some.inj (hsub.symm.trans rfl)
    intro t ht
    obtain rfl := Except.ok.inj (ht.symm.trans rfl)
    exact ⟨nofun, fun _ _ _ _ => trivial, trivial⟩

/-- A schema of objects with one member, which is required. -/
def requiring : Schema :=
  .mk [(.required, .data (.arr [.str "a"])), (.properties, .named [("a", .schema textSchema)]),
    (.type, .data (.str "object"))] []

/-- **An accepted record with data that does not conform**: its only member is required, and is left out
when it is empty.

**Proof sketch.** By evaluation the check accepts the record. If its blank data conformed, the
required member would be written, and by `exists_alwaysWritten` belong to a field that is always
written, which the only field is not. -/
theorem omittable_accepted :
    check requiring (.record .none [(omittable, .primitive .string)]) = .ok () ∧
      (Shape.record .none [(omittable, .primitive .string)]).Plain ∧
      (Shape.record .none [(omittable, .primitive .string)]).WellTagged ∧
      ¬ Conforms requiring (some requiring)
        (write (.record .none [(omittable, .primitive .string)]) ("", ())) := by
  obtain ⟨hmember, hwritten, hoptions⟩ := omittable_tag
  have htags : (Shape.record .none [(omittable, .primitive .string)]).WellTagged :=
    ⟨⟨by rw [hwritten, hmember], by simp [hoptions]⟩, trivial, trivial⟩
  refine ⟨by decide +kernel, ?_, htags, fun h => ?_⟩
  · exact ⟨rfl, by simp [hwritten], ⟨by decide, by simp [hoptions]⟩, rfl, trivial⟩
  · have hobject : Conforms requiring (some requiring)
        (.obj (writeFields [(omittable, .primitive .string)] ("", ()))) := h
    have hresolve : resolve requiring requiring = .ok ⟨requiring, .object, false⟩ := rfl
    have hmem := (hobject.object_inv hresolve).1 "a" (by decide)
    -- the empty text is zero, so the member would belong to a field that is always written
    obtain ⟨f, hf, m, hm, -, halways⟩ := exists_alwaysWritten _ htags (by rfl) "a" hmem
    obtain rfl := List.mem_singleton.1 hf
    obtain rfl := Option.some.inj (hm.symm.trans hmember)
    cases halways

end SchemaKit.Drift
