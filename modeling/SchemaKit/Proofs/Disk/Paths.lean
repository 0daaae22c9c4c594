import Mathlib.Data.String.Basic
import Mathlib.Tactic.Common
import SchemaKit.Disk.Basic
import SchemaKit.Proofs.Text.Parts

/-!
# Names inside a directory

A plain name has no slashes and is no step up or aside. Put into a directory it stands at the end of the
path, behind something that depends on the directory alone. So different plain names in one directory
have different paths.

## Main definitions

* `SchemaKit.Path.IsPlain` — names that lead to a file right inside a directory.

## Main results

* `SchemaKit.Path.exists_join_eq` — where a plain name stands in a path.
* `SchemaKit.Path.join_inj` — different plain names in one directory have different paths.
-/

namespace SchemaKit

namespace Text

/-- The last part of a joined text stands at its end.

**Proof sketch.** By induction on the parts in front of the last one. Each of them is put in front
of the stem with the separator behind it. -/
lemma exists_joined_concat (sep : String) (parts : List String) :
    ∃ stem, ∀ last, joined sep (parts ++ [last]) = stem ++ last := by
  induction parts with
  | nil => exact ⟨"", fun last => (String.empty_append).symm⟩
  | cons part parts ih =>
    obtain ⟨stem, hstem⟩ := ih
    refine ⟨part ++ sep ++ stem, fun last => ?_⟩
    have hne : parts ++ [last] ≠ [] := by simp
    obtain ⟨next, more, hmore⟩ := List.exists_cons_of_ne_nil hne
    calc joined sep (part :: parts ++ [last])
        = part ++ sep ++ joined sep (parts ++ [last]) := by
          rw [List.cons_append, hmore]
          rfl
      _ = part ++ sep ++ stem ++ last := by rw [hstem, ← String.append_assoc]

end Text

namespace Path

/-- A name that leads to a file right inside a directory: it has no slashes, and is neither empty nor a
step up or aside. -/
def IsPlain (name : String) : Prop := '/' ∉ name.toList ∧ name ≠ "" ∧ name ≠ "." ∧ name ≠ ".."

instance : DecidablePred IsPlain := fun _ => inferInstanceAs (Decidable (_ ∧ _))

/-- A plain name is one part. -/
lemma IsPlain.parts_eq {name : String} (h : IsPlain name) : parts name = [name] := by
  rw [parts, Text.splitAll_eq_splitOn, List.splitOn_eq_singleton h.1]
  simp

/-- A plain name behind other parts is kept. -/
lemma IsPlain.step_eq {name : String} (h : IsPlain name) (isRooted : Bool) (done : List String) :
    step isRooted done name = name :: done := by
  simp [step, h.2.1, h.2.2.1, h.2.2.2]

/-- **Where a plain name stands in a path**: at the end, behind a stem that depends on the directory.

**Proof sketch.** If the directory is empty, the name alone is the path. Otherwise the parts of the
path are those of the directory with the name behind them, because a plain name is one part, and a
plain part is kept when the path is made clean. The root of the directory stays in front of the
stem. -/
theorem exists_join_eq (dir : String) :
    ∃ stem, ∀ name, IsPlain name → join dir name = stem ++ name := by
  by_cases hdir : dir = ""
  · refine ⟨"", fun name h => ?_⟩
    have hrooted : ¬ name.toList.head? = some '/' := fun hhead => h.1 (List.mem_of_head? hhead)
    rw [join, if_pos hdir, clean, h.parts_eq]
    simp [h.step_eq, hrooted, Text.joined, h.2.1]
  · obtain ⟨stem, hstem⟩ := Text.exists_joined_concat "/"
      ((parts dir).foldl (step (dir.toList.head? = some '/')) []).reverse
    refine ⟨if dir.toList.head? = some '/' then "/" ++ stem else stem, fun name h => ?_⟩
    have hrooted : (dir ++ "/" ++ name).toList.head? = dir.toList.head? := by
      obtain ⟨c, rest, hchars⟩ := List.exists_cons_of_ne_nil (mt String.toList_eq_nil_iff.1 hdir)
      simp [hchars]
    have hparts : parts (dir ++ "/" ++ name) = parts dir ++ [name] := by
      have htext : (dir ++ "/" ++ name).toList = dir.toList ++ '/' :: name.toList := by simp
      rw [parts, htext, Text.splitAll_eq_splitOn, List.splitOn_append_cons_self, List.map_append,
        ← Text.splitAll_eq_splitOn, ← Text.splitAll_eq_splitOn, ← parts, ← parts, h.parts_eq]
    have hbody : stem ++ name ≠ "" := by simp [h.2.1]
    rw [join, if_neg hdir, clean, hrooted, hparts]
    simp only [List.foldl_append, List.foldl_cons, List.foldl_nil, h.step_eq, List.reverse_cons,
      hstem, hbody, if_false]
    split
    · rw [String.append_assoc]
    · rfl

/-- **Different plain names in one directory have different paths.** -/
theorem join_inj {dir m n : String} (hm : IsPlain m) (hn : IsPlain n) :
    join dir m = join dir n ↔ m = n := by
  obtain ⟨stem, hstem⟩ := exists_join_eq dir
  rw [hstem m hm, hstem n hn]
  exact String.append_right_inj stem

end Path

end SchemaKit
