import SchemaKit.Proofs.Drift.Conformance
import SchemaKit.Proofs.Shape.Tags

/-!
# The members that fields are taken to be

The check compares the properties of a schema with the members that it takes fields to be written to.
From most tags it takes what the writer takes from them: which fields are written at all, and which are
left out when they are empty. A name that the writer does not accept is the exception. The check looks
for a property of that name, while the writer uses the name of the field.

## Main definitions

* `SchemaKit.Label.value` — what the tag of a field says about members.
* `SchemaKit.Label.WrittenTo` — what the writer makes of a field.

## Main results

* `SchemaKit.Label.writtenTo_iff` — what the writer makes of a field is one thing.
* `SchemaKit.Label.taken_as_written` — when a field is written to the member that it is taken to be.
* `SchemaKit.Drift.owner_misnamed` — a field that is taken to be another member.

## Design

The writer's rule is stated for a value that is put together from a name and options, and says nothing
about how these are found. That there are such a name and such options for every value, and no others,
is proved of values.
-/

namespace SchemaKit

namespace Label

open Shape.Tag (Divided exists_divided splitName_of_divided)

/-! ## The writer's rule -/

/-- What the tag of a field says about members, nothing if it is silent about them. -/
def value (l : Label) : String := (Shape.Tag.lookup? "json" l.tag).getD ""

/-- What the writer makes of a field. Hidden fields and those whose tag is a dash are not written. The
member has the name in the tag if the writer accepts it, otherwise the name of the field, and is left
out when it is empty if this is among the options. -/
inductive WrittenTo (l : Label) : Option Member → Prop
  | hidden (h : l.isExported = false) : WrittenTo l none
  | dashed (h : l.value = "-") : WrittenTo l none
  | tagged {name : String} {options : List String} (hexported : l.isExported = true)
      (hdash : l.value ≠ "-") (hvalue : Divided l.value name options)
      (hname : isTagName name = true) :
      WrittenTo l (some ⟨name, decide ("omitempty" ∈ options)⟩)
  | untagged {name : String} {options : List String} (hexported : l.isExported = true)
      (hdash : l.value ≠ "-") (hvalue : Divided l.value name options)
      (hname : isTagName name = false) :
      WrittenTo l (some ⟨l.name, decide ("omitempty" ∈ options)⟩)

variable {l : Label} {m : Option Member}

/-- Fields that are not written.

**Proof sketch.** The rules for fields that are written demand an exported name and a tag other than
a dash. -/
lemma writtenTo_iff_of_unwritten (h : l.isExported = false ∨ l.value = "-") :
    l.WrittenTo m ↔ m = none := by
  constructor
  · intro hwritten
    cases hwritten with
    | hidden => rfl
    | dashed => rfl
    | tagged hexported hdash | untagged hexported hdash => simp [hexported, hdash] at h
  · rintro rfl
    exact h.elim .hidden .dashed

section

variable {name : String} {options : List String} (hexported : l.isExported = true)
  (hdash : l.value ≠ "-") (h : Divided l.value name options)

include hexported hdash h

/-- Fields with some name and options in their tag.

**Proof sketch.** An exported field with such a tag is written by one of two rules, depending on
whether the writer takes the name, and the tag is divided in one way only. -/
lemma writtenTo_iff_of_divided :
    l.WrittenTo m ↔
      m = some ⟨if isTagName name = true then name else l.name, decide ("omitempty" ∈ options)⟩ := by
  constructor
  · intro hwritten
    cases hwritten with
    | hidden hhidden => simp [hexported] at hhidden
    | dashed hvalue => exact absurd hvalue hdash
    | tagged _ _ hvalue hname =>
      obtain ⟨rfl, rfl⟩ := h.unique hvalue
      rw [if_pos hname]
    | untagged _ _ hvalue hname =>
      obtain ⟨rfl, rfl⟩ := h.unique hvalue
      rw [if_neg (by simp [hname])]
  · rintro rfl
    split
    · next hname => exact .tagged hexported hdash h hname
    · next hname => exact .untagged hexported hdash h (by simpa using hname)

/-- The member that such a field is taken to be.

**Proof sketch.** The value is divided at its commas as `splitName_of_divided` says. An empty list
of options stands for one empty option, which is no name of an option. -/
lemma member?_of_divided :
    l.member? = some ⟨if name = "" then l.name else name, decide ("omitempty" ∈ options)⟩ := by
  have hoptions : (if options = [] then [""] else options).contains "omitempty" =
      decide ("omitempty" ∈ options) := by
    split
    · next hnil =>
      subst hnil
      decide
    · exact List.contains_eq_mem _ _
  rw [member?, ← value, if_neg (by simp [hexported, hdash]), splitName_of_divided h]
  simp only [hoptions]

/-- The member that such a field is written to.

**Proof sketch.** By whether the name is empty, and if it is not, by whether it is one that a tag
may give. -/
lemma written?_of_divided :
    l.written? =
      some ⟨if isTagName name = true then name else l.name, decide ("omitempty" ∈ options)⟩ := by
  rw [written?, member?_of_divided hexported hdash h, Option.map_some]
  dsimp only
  by_cases hname : name = ""
  · subst hname
    rw [if_pos rfl, if_neg (show ¬isTagName "" = true by decide), ite_self]
  · rw [if_neg hname]
    split <;> rfl

end

/-- Hidden fields and those whose tag is a dash are not taken to be members. -/
lemma member?_of_unwritten (h : l.isExported = false ∨ l.value = "-") : l.member? = none := by
  rw [member?, ← value, if_pos (by simpa using h)]

/-- **What the writer makes of a field is one thing**, and it is what data of records is written by. -/
theorem writtenTo_iff : l.WrittenTo m ↔ m = l.written? := by
  by_cases hunwritten : l.isExported = false ∨ l.value = "-"
  · rw [writtenTo_iff_of_unwritten hunwritten, written?, member?_of_unwritten hunwritten]
    rfl
  · rw [not_or, Bool.not_eq_false] at hunwritten
    obtain ⟨name, options, h⟩ := exists_divided l.value
    rw [writtenTo_iff_of_divided hunwritten.1 hunwritten.2 h,
      written?_of_divided hunwritten.1 hunwritten.2 h]

/-! ## What is taken from tags -/

/-- The tag of a field can say anything. -/
lemma exists_value_eq (l : Label) (value : String) :
    ∃ tag, ({ l with tag := tag } : Label).value = value := by
  have hkey : ∀ c ∈ "json".toList, Shape.Tag.isKeyChar c = true := List.all_eq_true.1 (by decide)
  refine ⟨Shape.Tag.single "json" value, ?_⟩
  rw [Label.value, Shape.Tag.lookup?_single (by decide) hkey]
  rfl

/-- **A field is written to the member that it is taken to be, unless the name in its tag is refused.**
The tag can say anything. Whatever it says, the field is taken to be written if and only if the writer
writes it, and to be left out when it is empty if and only if the writer leaves it out then. The name
that it is taken to have is the one that the writer uses if and only if there is no name in the tag, or
one that the writer accepts, or that of the field itself.

**Proof sketch.** What the tag says is a name and options. Both sides are read off from these: the options
are the same, and the names are chosen by different conditions on the name in the tag. -/
theorem taken_as_written (l : Label) :
    (∀ value, ∃ tag, ({ l with tag := tag } : Label).value = value) ∧
      (∀ m, l.WrittenTo m ↔ m = l.written?) ∧
      ∃ name options, Divided l.value name options ∧
        Option.Rel (fun taken written => taken.omitted = written.omitted ∧
          (taken.name = written.name ↔ name = "" ∨ isTagName name = true ∨ name = l.name))
          l.member? l.written? := by
  refine ⟨exists_value_eq l, fun m => writtenTo_iff, ?_⟩
  obtain ⟨name, options, h⟩ := exists_divided l.value
  refine ⟨name, options, h, ?_⟩
  by_cases hunwritten : l.isExported = false ∨ l.value = "-"
  · rw [written?, member?_of_unwritten hunwritten]
    exact .none
  · rw [not_or, Bool.not_eq_false] at hunwritten
    obtain ⟨hexported, hdash⟩ := hunwritten
    rw [member?_of_divided hexported hdash h, written?_of_divided hexported hdash h]
    refine .some ⟨rfl, ?_⟩
    by_cases hempty : name = ""
    · simp [hempty, isTagName]
    · by_cases hname : isTagName name = true <;> simp [hempty, hname]

/-- A dash by itself is no name, and one with a comma behind it is. -/
example : (Label.mk "A" "json:\"-\"").member? = none ∧
    (Label.mk "A" "json:\"-,\"").member? = some ⟨"-", false⟩ := by decide +kernel

end Label

namespace Drift

/-- A field with a mark in its tag that the writer does not accept in names. -/
def owner : Label := ⟨"Owner", "json:\"owner's\""⟩

/-- A schema of objects with a single member, which is a text. -/
def describing (name : String) : Schema :=
  .mk [(.required, .data (.arr [.str name])), (.properties, .named [(name, .schema textSchema)]),
    (.type, .data (.str "object"))] []

/-- **A field that is taken to be another member than it is written to.** The check refuses the schema
that names the member, and accepts one that names another.

**Proof sketch.** What the check says about the two schemas is seen by evaluation. The writer does
not take the name because of the apostrophe, and a field is written to one member only. -/
theorem owner_misnamed :
    owner.isExported = true ∧ owner.member? = some ⟨"owner's", false⟩ ∧
      owner.WrittenTo (some ⟨"Owner", false⟩) ∧ ¬owner.WrittenTo (some ⟨"owner's", false⟩) ∧
      check (describing "Owner") (.record .none [(owner, .primitive .string)]) =
        .error (.found [] (.missingProperty "owner's")) ∧
      check (describing "owner's") (.record .none [(owner, .primitive .string)]) = .ok () := by
  have hvalue : owner.value = "owner's" := by decide +kernel
  have hdivided : Shape.Tag.Divided owner.value "owner's" [] :=
    ⟨by rw [hvalue, String.intercalate_singleton], by decide⟩
  have hwritten : owner.WrittenTo (some ⟨"Owner", false⟩) :=
    .untagged (by decide) (by rw [hvalue]; decide) hdivided (by decide)
  refine ⟨by decide, by decide +kernel, hwritten, fun h => ?_, by decide +kernel, by decide +kernel⟩
  have hsame := (Label.writtenTo_iff.1 h).trans (Label.writtenTo_iff.1 hwritten).symm
  exact absurd hsame (by decide)

end Drift

end SchemaKit
