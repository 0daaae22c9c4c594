import SchemaKit.Proofs.Json.Consumed
import SchemaKit.Proofs.Outcome.RoundTrip

/-!
# Which texts are outcomes

A text is read as an outcome in three stages, and each of them can fail: the text is decoded into
the members of an outcome, the members must fit together, and the one that stands for the content is
read by its codec. Members are compared by name up to case, and the last of several has the last
word. But flags of the wrong kind spoil the reading wherever they stand. An outcome that was there
before is never looked at, and it is replaced only if all stages succeed.

## Main definitions

* `SchemaKit.Outcome.lastMembers` — the members of an object by their last occurrences.
* `SchemaKit.Outcome.Decoded` — the members that a document is decoded into.
* `SchemaKit.Outcome.Members.Fitting` — the members fit together.
* `SchemaKit.Outcome.Members.Carries` — the members stand for an outcome.

## Main results

* `SchemaKit.Outcome.members?_eq_some_iff` — what documents are decoded into.
* `SchemaKit.Outcome.readText_spec` — which texts are outcomes, and what is wrong with the others.
-/

namespace SchemaKit.Outcome

open Json

variable {α ε : Type}

/-! ## Members -/

/-- The truth value that a member holds. -/
def truth? (v : Option Json) : Option Bool :=
  match v with
  | some (.bool b) => some b
  | _ => none

/-- The members of an object by their last occurrences. -/
def lastMembers (ms : List (String × Json)) : Members :=
  ⟨truth? (fieldsNamed ms "ok").getLast?, (fieldsNamed ms "value").getLast?,
    (fieldsNamed ms "error").getLast?⟩

/-- The members that a document is decoded into. All flags must be truth values or null, also those
that a later one replaces. -/
inductive Decoded : Json → Members → Prop
  | null : Decoded .null ⟨none, none, none⟩
  | obj {ms : List (String × Json)}
      (flags : ∀ v ∈ fieldsNamed ms "ok", v = .null ∨ ∃ b, v = .bool b) :
      Decoded (.obj ms) (lastMembers ms)

/-- Flags fit if all of them are truth values or null, and then the last one counts. -/
lemma readField_readFlag (vs : List Json) :
    ((readField readFlag none vs).fits = true ↔ ∀ v ∈ vs, v = .null ∨ ∃ b, v = .bool b) ∧
      ((readField readFlag none vs).fits = true →
        (readField readFlag none vs).value = truth? vs.getLast?) := by
  induction vs using List.reverseRecOn with
  | nil => simp [readField, truth?]
  | append_singleton vs v ih =>
    rw [readField_concat, List.getLast?_concat, Bool.and_eq_true, ih.1]
    cases v <;> simp [readFlag, truth?, or_imp, forall_and]

/-- **What documents are decoded into.**

**Proof sketch.** By cases on the document: null is decoded, an object is decoded iff all values
under the flag's name are flags or null, and the last flag counts. Nothing else is. -/
lemma members?_eq_some_iff {doc : Json} {m : Members} : members? doc = some m ↔ Decoded doc m := by
  constructor
  · intro h
    unfold members? at h
    split at h
    · cases h
      exact .null
    · next ms =>
      obtain ⟨hfits, hvalue⟩ := readField_readFlag (fieldsNamed ms "ok")
      simp only at h
      split at h
      · next hflags =>
        rw [hvalue hflags] at h
        cases h
        exact .obj (hfits.1 hflags)
      · cases h
    · cases h
  · rintro (_ | ⟨hflags⟩)
    · rfl
    · next ms =>
      obtain ⟨hfits, hvalue⟩ := readField_readFlag (fieldsNamed ms "ok")
      rw [members?]
      simp only [hfits.2 hflags, hvalue (hfits.2 hflags), if_true]
      rfl

/-- The members fit together: the flag says which one of the other two is present. -/
def Members.Fitting (m : Members) : Prop :=
  m.flag = some true ∧ m.value.isSome = true ∧ m.error = none ∨
    m.flag = some false ∧ m.error.isSome = true ∧ m.value = none

/-- The members stand for an outcome: they fit together, and the content is read by its codec. -/
inductive Members.Carries (value : Codec α) (error : Codec ε) : Members → Outcome α ε → Prop
  | ok {v : Json} {a : α} (h : value.read v = .ok a) :
      Members.Carries value error ⟨some true, some v, none⟩ (.ok a)
  | fail {v : Json} {e : ε} (h : error.read v = .ok e) :
      Members.Carries value error ⟨some false, none, some v⟩ (.fail e)

/-! ## Documents -/

section

variable {value : Codec α} {error : Codec ε} {doc : Json} {text : List Char}

/-- Which documents are outcomes. -/
lemma read_eq_ok_iff {r : Outcome α ε} :
    read value error doc = .ok r ↔ ∃ m, Decoded doc m ∧ m.Carries value error r := by
  simp only [← members?_eq_some_iff]
  constructor
  · intro h
    rcases read_eq_ok h with ⟨v, a, hms, ha, rfl⟩ | ⟨v, e, hms, he, rfl⟩
    · exact ⟨_, hms, .ok ha⟩
    · exact ⟨_, hms, .fail he⟩
  · rintro ⟨_, hms, ha | he⟩
    · simp only [read, hms, ha]
    · simp only [read, hms, he]

/-- Members that do not fit together are reported as such, and nothing else is.

**Proof sketch.** By cases in the order in which members are looked at: whether there is a flag,
what it says, and whether there is a value or an error. Each case either fits or is reported. -/
lemma exists_read_eq_misfit_iff :
    (∃ s, read value error doc = .error (.misfit s)) ↔ ∃ m, Decoded doc m ∧ ¬m.Fitting := by
  simp only [← members?_eq_some_iff]
  unfold read
  split
  · next hms => simp [hms]
  · next hms => simp [hms, Members.Fitting]
  · next v hms => cases value.read v <;> simp [hms, Members.Fitting]
  · next v? e? hbad hms =>
    have hnot : ¬Members.Fitting ⟨some true, v?, e?⟩ := by
      rintro (⟨-, hv, he⟩ | ⟨hflag, -⟩)
      · obtain ⟨v, hv⟩ := Option.isSome_iff_exists.1 hv
        exact hbad v hv he
      · cases hflag
    exact ⟨fun _ => ⟨_, hms, hnot⟩, fun _ => ⟨_, rfl⟩⟩
  · next v hms => cases error.read v <;> simp [hms, Members.Fitting]
  · next v? e? hbad hms =>
    have hnot : ¬Members.Fitting ⟨some false, v?, e?⟩ := by
      rintro (⟨hflag, -⟩ | ⟨-, he, hv⟩)
      · cases hflag
      · obtain ⟨e, he⟩ := Option.isSome_iff_exists.1 he
        exact hbad e hv he
    exact ⟨fun _ => ⟨_, hms, hnot⟩, fun _ => ⟨_, rfl⟩⟩

end

/-! ## Texts -/

/-- The members that a text is decoded into, as a document that is not nested too deep. -/
def DecodedText (text : List Char) (m : Members) : Prop :=
  ∃ doc, IsDocument doc text ∧ doc.depth ≤ maxDepth ∧ Decoded doc m

/-- **Which texts are outcomes, and what is wrong with the others.** A text is read as an outcome
exactly if it is decoded into members that stand for the outcome, whatever was there before, which
is replaced then. If a text is decoded into members that do not fit together, exactly then that is
reported. A failure of any kind leaves what was there before.

**Proof sketch.** A text is decoded iff it is read as a document that is. What follows is said by
`read_eq_ok_iff` and `exists_read_eq_misfit_iff` about the document, and what was there before is
replaced on success only. -/
theorem readText_spec (value : Codec α) (error : Codec ε) (text : List Char) :
    (∀ r, readText value error text = .ok r ↔
        ∃ m, DecodedText text m ∧ m.Carries value error r) ∧
      (∀ r, readText value error text = .ok r → ∀ old, after value error old text = r) ∧
      ((∃ s, readText value error text = .error (.misfit s)) ↔
        ∃ m, DecodedText text m ∧ ¬m.Fitting) ∧
      ∀ f, readText value error text = .error f → ∀ old, after value error old text = old := by
  have hdecoded : ∀ m, DecodedText text m ↔ ∃ doc, readWhole text = some doc ∧ Decoded doc m := by
    simp only [DecodedText, readWhole_eq_some_iff, and_assoc, implies_true]
  refine ⟨fun r => ?_, fun r hr old => by rw [after, hr], ?_, fun f hf old => by rw [after, hf]⟩
  · rw [readText]
    cases hread : readWhole text with
    | none => simp [hdecoded, hread]
    | some doc => simp [hdecoded, hread, read_eq_ok_iff]
  · rw [readText]
    cases hread : readWhole text with
    | none => simp [hdecoded, hread]
    | some doc => simp [hdecoded, hread, exists_read_eq_misfit_iff]

/-- A text with repeated members, some of them in another case, and one that is not known. -/
def repeated : List Char :=
  "\x7b\"VALUE\":\"x\",\"ok\":null,\"Ok\":true,\"value\":7,\"more\":[]\x7d".toList

/-- The last members count.

**Proof sketch.** The text is a document with repeated members, of which the last ones are a true
flag and a number. So it carries the outcome with this number, and the general statement applies. -/
theorem readText_spec_repeated :
    readText Codec.int Codec.text repeated = .ok (.ok 7) ∧
      ∀ old, after Codec.int Codec.text old repeated = .ok 7 := by
  have hread : readWhole repeated = some (.obj [("VALUE", .str "x"), ("ok", .null),
      ("Ok", .bool true), ("value", .num ⟨false, ['7'], none, none⟩), ("more", .arr [])]) := by rfl
  obtain ⟨hdocument, hdepth⟩ := readWhole_eq_some_iff.1 hread
  have hmembers : members? (.obj [("VALUE", .str "x"), ("ok", .null), ("Ok", .bool true),
      ("value", .num ⟨false, ['7'], none, none⟩), ("more", .arr [])]) =
        some ⟨some true, some (.num ⟨false, ['7'], none, none⟩), none⟩ := by rfl
  obtain ⟨hok, hreplaced, -⟩ := readText_spec Codec.int Codec.text repeated
  have hsome : readText Codec.int Codec.text repeated = .ok (.ok 7) :=
    (hok _).2 ⟨_, ⟨_, hdocument, hdepth, members?_eq_some_iff.1 hmembers⟩, .ok rfl⟩
  exact ⟨hsome, hreplaced _ hsome⟩

/-- A text in which the last flag is a truth value, and an earlier one is not. -/
def spoiled : List Char := "\x7b\"ok\":\"x\",\"ok\":true,\"value\":1\x7d".toList

/-- The last members of an object may stand for an outcome although its text is not read as one.

**Proof sketch.** The last members of the text stand for an outcome. But an earlier flag is a text,
so that reading fails, and the equivalence would say otherwise. -/
theorem not_forall_readText_iff_lastMembers :
    ¬∀ text, (∃ r, readText Codec.int Codec.text text = .ok r) ↔
      ∃ ms r, IsDocument (.obj ms) text ∧ (Json.obj ms).depth ≤ maxDepth ∧
        (lastMembers ms).Carries Codec.int Codec.text r := by
  intro h
  have hread : readWhole spoiled = some (.obj [("ok", .str "x"), ("ok", .bool true),
      ("value", .num ⟨false, ['1'], none, none⟩)]) := by rfl
  obtain ⟨hdocument, hdepth⟩ := readWhole_eq_some_iff.1 hread
  have hlast : lastMembers [("ok", .str "x"), ("ok", .bool true),
      ("value", .num ⟨false, ['1'], none, none⟩)] =
        ⟨some true, some (.num ⟨false, ['1'], none, none⟩), none⟩ := by rfl
  obtain ⟨r, hr⟩ := (h spoiled).2 ⟨_, .ok 1, hdocument, hdepth, hlast ▸ .ok rfl⟩
  have hspoiled : readText Codec.int Codec.text spoiled =
      .error (.inside "result" .malformed) := by
    rw [readText, hread]
    rfl
  rw [hspoiled] at hr
  cases hr

end SchemaKit.Outcome
