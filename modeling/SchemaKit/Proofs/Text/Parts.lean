import Mathlib.Data.List.Basic
import Mathlib.Tactic.Common
import SchemaKit.Text.Split

/-!
# The parts of a text

A text that is split at a character consists of its parts, with the character between each two of them
and nowhere else. Texts are split as lists are, so what is known of these need not be proved again.

## Main results

* `SchemaKit.Text.splitAll_eq_splitOn` — splitting a text is splitting a list.
* `SchemaKit.Text.notMem_of_mem_splitOn` — no part has the character in it.
* `SchemaKit.Text.cut_append_cons` — what stands before and behind a first occurrence.
-/

namespace SchemaKit.Text

/-- Splitting a text is splitting a list. -/
lemma splitAll_eq_splitOn (c : Char) (s : List Char) : splitAll c s = s.splitOn c := by
  induction s with
  | nil => rfl
  | cons d s ih =>
    rw [splitAll, ih, List.splitOn_cons_eq_if_modifyHead]
    simp only [beq_iff_eq]
    split
    · rfl
    · obtain ⟨part, more, hparts⟩ := List.exists_cons_of_ne_nil (List.splitOn_ne_nil c s)
      rw [hparts]
      rfl

/-- No part of a text has the character in it at which the text is split.

**Proof sketch.** By induction on the text. A character that is not the one to split at joins the
first part, and otherwise a new part starts. -/
lemma notMem_of_mem_splitOn {c : Char} {s part : List Char} (h : part ∈ s.splitOn c) :
    c ∉ part := by
  induction s generalizing part with
  | nil =>
    obtain rfl : part = [] := by simpa using h
    exact List.not_mem_nil
  | cons d s ih =>
    rw [List.splitOn_cons_eq_if_modifyHead] at h
    split at h
    · rcases List.mem_cons.1 h with rfl | h
      · exact List.not_mem_nil
      · exact ih h
    · next hd =>
      obtain ⟨first, more, hparts⟩ := List.exists_cons_of_ne_nil (List.splitOn_ne_nil c s)
      rw [hparts] at h ih
      rcases List.mem_cons.1 h with rfl | h
      · rw [List.mem_cons, not_or]
        exact ⟨fun hc => hd (beq_iff_eq.2 hc.symm), ih List.mem_cons_self⟩
      · exact ih (List.mem_cons_of_mem _ h)

/-- A text without the character is not cut. -/
lemma cut_eq_none {c : Char} {s : List Char} (h : c ∉ s) : cut c s = none := by
  induction s with
  | nil => rfl
  | cons d s ih =>
    rw [List.mem_cons, not_or] at h
    rw [cut, if_neg (Ne.symm h.1), ih h.2]
    rfl

/-- A text is cut at the first occurrence of the character. -/
lemma cut_append_cons {c : Char} {before : List Char} (h : c ∉ before) (behind : List Char) :
    cut c (before ++ c :: behind) = some (before, behind) := by
  induction before with
  | nil => rw [List.nil_append, cut, if_pos rfl]
  | cons d before ih =>
    rw [List.mem_cons, not_or] at h
    rw [List.cons_append, cut, if_neg (Ne.symm h.1), ih h.2]
    rfl

end SchemaKit.Text
