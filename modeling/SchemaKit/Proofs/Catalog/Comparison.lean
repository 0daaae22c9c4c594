import Mathlib.Data.ENat.Basic
import SchemaKit.Catalog.Basic
import SchemaKit.Proofs.Schema.Encoding

/-!
# The comparison of schemas

Two schemas are the same if they have one text apart from examples, or if neither of them can be
written. What is stored is not what was compared, because the definitions inside a schema are left
out. That makes the text shorter, and it can only make it possible to write a schema, never impossible.
So the room that a schema takes, with the room of what cannot be written counted as infinite, falls
whenever the text changes.

## Main definitions

* `SchemaKit.Catalog.width` — the room that a schema takes in the comparison.

## Main results

* `SchemaKit.Catalog.isSame_iff` — when schemas are the same.
* `SchemaKit.Catalog.essence_eq_of_essenceText?_eq` — one text belongs to one document.
* `SchemaKit.Catalog.essenceText?_drop_definitions_eq_iff` — when it makes no difference to the text
  that definitions are left out.
* `SchemaKit.Catalog.width_drop_definitions_lt` — otherwise the schema takes less room.
-/

namespace SchemaKit.Catalog

section

variable {s s' t : Schema} {text : String}

/-! ## Being the same -/

/-- Schemas are the same if they have one text apart from examples, or if both have none. -/
lemma isSame_iff : isSame s t = true ↔ essenceText? s = essenceText? t := by simp [isSame]

/-- Being the same does not depend on the order. -/
lemma isSame_comm : isSame s t = true ↔ isSame t s = true := by
  rw [isSame_iff, isSame_iff, eq_comm]

/-- Of schemas that are the same, each can stand for the other. -/
lemma isSame_congr (h : isSame s s' = true) : isSame s t = true ↔ isSame s' t = true := by
  rw [isSame_iff] at h
  rw [isSame_iff, isSame_iff, h]

/-- The text that is compared is that of the document apart from examples. -/
lemma essenceText?_eq_some_iff :
    essenceText? s = some text ↔
      (s.drop .examples).isEncodable = true ∧ (essence s).compact = text :=
  Schema.encoding?_eq_some_iff

/-- A schema that can be written is compared in the text of its document. -/
lemma compact_essence (h : essenceText? s = some text) : (essence s).compact = text :=
  (essenceText?_eq_some_iff.1 h).2

/-- **One text belongs to one document.** -/
lemma essence_eq_of_essenceText?_eq (hs : essenceText? s = some text)
    (ht : essenceText? t = some text) : essence s = essence t :=
  Schema.json_eq_of_encoding?_eq hs ht

/-- A schema that can be written can be written without its definitions. -/
lemma essenceText?_drop_definitions (h : essenceText? s = some text) :
    essenceText? (s.drop .definitions) = some (essence (s.drop .definitions)).compact := by
  refine essenceText?_eq_some_iff.2 ⟨?_, rfl⟩
  rw [Schema.drop_drop_comm]
  exact Schema.isEncodable_drop (essenceText?_eq_some_iff.1 h).1

/-- **Definitions take room**: without them a schema has a shorter text. -/
lemma length_essence_drop_definitions_lt (h : s.part? .definitions ≠ none) :
    (essence (s.drop .definitions)).compact.length < (essence s).compact.length := by
  have hlength := Schema.length_compact_drop (s := s.drop .examples) (k := .definitions)
  have hpart : (s.drop .examples).part? .definitions ≠ none := by
    rwa [Schema.part?_drop_of_ne (by decide)]
  have hparts := Schema.length_parts_drop_lt hpart
  rw [essence, Schema.drop_drop_comm, essence]
  omega

/-- **When it makes no difference to the text that definitions are left out**: a schema that can be
written must have none, and one that cannot be written must be so apart from its definitions.

**Proof sketch.** If the schema can be written, leaving out definitions makes the text shorter, so
that equal texts mean that there were none. If it cannot be written, both sides say that the rest
cannot be written either. -/
lemma essenceText?_drop_definitions_eq_iff :
    essenceText? (s.drop .definitions) = essenceText? s ↔
      (essenceText? s ≠ none → s.part? .definitions = none) ∧
        (essenceText? s = none → essenceText? (s.drop .definitions) = none) := by
  cases htext : essenceText? s with
  | none => simp
  | some text =>
    simp only [ne_eq, reduceCtorEq, not_false_eq_true, true_imp_iff, IsEmpty.forall_iff, and_true]
    refine ⟨fun h => ?_, fun h => by rw [Schema.drop_eq_self h, htext]⟩
    by_contra hpart
    have hlt := length_essence_drop_definitions_lt hpart
    rw [compact_essence h, compact_essence htext] at hlt
    exact lt_irrefl _ hlt

/-! ## Room -/

/-- The room that a schema takes in the comparison: the length of its text. What cannot be written
counts as longer than any text. -/
def width (s : Schema) : ℕ∞ :=
  match essenceText? s with
  | none => ⊤
  | some text => text.length

/-- Schemas with one text, or with none, take the same room. -/
lemma width_congr (h : essenceText? s = essenceText? t) : width s = width t := by
  rw [width, width, h]

/-- **Where leaving out the definitions makes a difference, the schema takes less room.**

**Proof sketch.** A schema that cannot be written takes infinite room, and takes finite room once it
can be. One that can be written stays so, and has lost at least a character. -/
lemma width_drop_definitions_lt (h : essenceText? (s.drop .definitions) ≠ essenceText? s) :
    width (s.drop .definitions) < width s := by
  cases htext : essenceText? s with
  | none =>
    obtain ⟨text, hdrop⟩ := Option.ne_none_iff_exists'.1 (htext ▸ h)
    simp only [width, hdrop, htext]
    exact ENat.natCast_lt_top _
  | some text =>
    have hpart : s.part? .definitions ≠ none := fun hnone => h (by rw [Schema.drop_eq_self hnone])
    simp only [width, essenceText?_drop_definitions htext, htext, Nat.cast_lt]
    rw [← compact_essence htext]
    exact length_essence_drop_definitions_lt hpart

/-- Without its definitions a schema takes no more room. -/
lemma width_drop_definitions_le : width (s.drop .definitions) ≤ width s := by
  by_cases h : essenceText? (s.drop .definitions) = essenceText? s
  · exact (width_congr h).le
  · exact (width_drop_definitions_lt h).le

end

end SchemaKit.Catalog
