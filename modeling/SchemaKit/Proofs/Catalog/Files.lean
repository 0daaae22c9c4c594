import Mathlib.Data.List.Nodup
import Mathlib.Data.Set.Function
import SchemaKit.Proofs.Catalog.Invariant
import SchemaKit.Proofs.Text.Words

/-!
# The files of definitions

Every definition of a catalog is written to a file that is named after it. The names of a catalog
differ by more than case, but the file is named by the words of the name, and the same words can be
joined into names in more than one way.

## Main results

* `SchemaKit.Catalog.fileName_eq_iff` — when two names have one file.
* `SchemaKit.Catalog.equalFold_of_fileName_eq` — names in one piece have one file only if they are
  equal up to case.
* `SchemaKit.Catalog.fileName_injOn_iff` — when the definitions of a catalog have different files.
* `SchemaKit.Catalog.not_forall_fileName_injOn` — two definitions with one file.
-/

namespace SchemaKit.Catalog

/-- **Two names have one file iff they have the same words.** -/
lemma fileName_eq_iff {m n : String} :
    fileName m = fileName n ↔ Text.words m.toList = Text.words n.toList := by
  rw [← Text.kebab_eq_iff, fileName, fileName]
  constructor
  · intro h
    have hlists := congrArg String.toList h
    simpa using hlists
  · intro h
    rw [h]

/-- The characters that make a difference between names which is not seen in their files, apart from
case: those between words, and the one letter whose lower case is another letter's. -/
def isHidden (c : Char) : Bool := Text.isBreak c || c == 'İ'

/-- A character that is not hidden stands in a word and has a lower case that folds as it does. -/
lemma isHidden_eq_false_iff {c : Char} :
    isHidden c = false ↔ Text.isBreak c = false ∧ c ≠ 'İ' := by
  simp [isHidden]

/-- **Names without hidden characters that have one file are equal up to case.** -/
lemma equalFold_of_fileName_eq {m n : String} (hm : ∀ c ∈ m.toList, isHidden c = false)
    (hn : ∀ c ∈ n.toList, isHidden c = false) (h : fileName m = fileName n) :
    Text.equalFold m n = true := by
  exact Text.equalFold_of_kebab_eq (fun c hc => isHidden_eq_false_iff.1 (hm c hc))
    (fun c hc => isHidden_eq_false_iff.1 (hn c hc)) (Text.kebab_eq_iff.2 (fileName_eq_iff.1 h))

/-- **The definitions of a catalog have different files** iff no two of their names have the same
words. Two definitions can only have one file if there is a hidden character in one of their names.

**Proof sketch.** Two names have one file iff they have the same words. For the second half, names
without hidden characters that have the same words are equal up to case, and no two names of a
catalog are. -/
theorem fileName_injOn_iff (calls : List Call) :
    (Set.InjOn fileName {name | name ∈ (empty.after calls).names} ↔
        ((empty.after calls).names.map fun name => Text.words name.toList).Nodup) ∧
      ∀ m ∈ (empty.after calls).names, ∀ n ∈ (empty.after calls).names,
        m ≠ n → fileName m = fileName n → ∃ c ∈ m.toList ++ n.toList, isHidden c = true := by
  have hsound : (empty.after calls).Sound := sound_empty.run (run_after empty calls)
  have hnodup : (empty.after calls).names.Nodup := hsound.ascending.imp ne_of_lt
  refine ⟨?_, fun m hm n hn hne hfile => ?_⟩
  · rw [List.nodup_map_iff_inj_on hnodup]
    constructor
    · intro hinj m hm n hn hwords
      exact hinj hm hn (fileName_eq_iff.2 hwords)
    · intro hinj m hm n hn hfile
      exact hinj m hm n hn (fileName_eq_iff.1 hfile)
  · by_contra hhidden
    simp only [List.mem_append, not_exists, not_and, Bool.not_eq_true] at hhidden
    have hfold := equalFold_of_fileName_eq (fun c hc => hhidden c (.inl hc))
      (fun c hc => hhidden c (.inr hc)) hfile
    exact hne (hsound.distinct m hm n hn hfold)

/-- Two definitions whose names have the same words. -/
def userMaps : List Call := [.add "UserMap" .blank, .add "user_map" .blank]

/-- Both definitions are added. -/
lemma names_userMaps : (empty.after userMaps).names = ["UserMap", "user_map"] := by rfl

/-- Both definitions have the same file. -/
lemma fileName_userMaps : fileName "UserMap" = fileName "user_map" := by rfl

/-- Two definitions that have one file, and the hidden character in one of their names. -/
theorem fileName_injOn_iff_userMaps :
    "UserMap" ∈ (empty.after userMaps).names ∧ "user_map" ∈ (empty.after userMaps).names ∧
      "UserMap" ≠ "user_map" ∧ fileName "UserMap" = fileName "user_map" ∧
      ∃ c ∈ "UserMap".toList ++ "user_map".toList, isHidden c = true := by
  have hm : "UserMap" ∈ (empty.after userMaps).names := by simp [names_userMaps]
  have hn : "user_map" ∈ (empty.after userMaps).names := by simp [names_userMaps]
  have hne : "UserMap" ≠ "user_map" := by decide
  exact ⟨hm, hn, hne, fileName_userMaps,
    (fileName_injOn_iff userMaps).2 _ hm _ hn hne fileName_userMaps⟩

/-- **Two definitions can have one file**, so that the one written later is all that remains. -/
theorem not_forall_fileName_injOn :
    ¬∀ calls : List Call, Set.InjOn fileName {name | name ∈ (empty.after calls).names} := by
  intro h
  have hm : "UserMap" ∈ (empty.after userMaps).names := by simp [names_userMaps]
  have hn : "user_map" ∈ (empty.after userMaps).names := by simp [names_userMaps]
  exact absurd (h userMaps hm hn fileName_userMaps) (by decide)

end SchemaKit.Catalog
