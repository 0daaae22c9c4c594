import SchemaKit.Proofs.Catalog.Log

/-!
# The invariant of catalogs

A schema is stored before the definitions inside it are looked at, and a refusal in the middle
leaves behind what was stored so far. So the invariant is shown for a single store, and holds at
every point of every call.

## Main definitions

* `SchemaKit.Catalog.Sound` — names are in order, not empty and different up to case, and
  definitions have been moved out of the schemas.

## Main results

* `SchemaKit.Catalog.Sound.store` — a store keeps a catalog sound.
* `SchemaKit.Catalog.names_after` — what holds after any calls.
-/

namespace SchemaKit.Catalog

/-- What holds of every catalog that is built by calls. -/
structure Sound (c : Catalog) : Prop where
  /-- The names ascend strictly. -/
  ascending : c.names.Pairwise (· < ·)
  /-- No name is empty. -/
  nonempty : ∀ name ∈ c.names, name ≠ ""
  /-- Names that are equal up to case are equal. -/
  distinct : ∀ m ∈ c.names, ∀ n ∈ c.names, Text.equalFold m n = true → m = n
  /-- The definitions of a schema are entries of their own. -/
  hoisted : ∀ name s, c.get? name = some s → s.part? .definitions = none

/-- The catalog without entries is sound. -/
lemma sound_empty : Sound empty where
  ascending := .nil
  nonempty := by simp [names, empty]
  distinct := by simp [names, empty]
  hoisted := by simp [get?, empty, Json.lookup?]

/-- Equality up to case does not depend on the order. -/
lemma equalFold_comm (s t : String) : Text.equalFold s t = Text.equalFold t s := by
  rw [Bool.eq_iff_iff, Text.equalFold_iff, Text.equalFold_iff, eq_comm]

/-- A name under which a schema is stored differs up to case from every other name. -/
lemma Sound.eq_of_equalFold {c : Catalog} (hc : c.Sound) {name other : String} {s : Schema}
    (hjudge : c.judge name s = .ok true) (hother : other ∈ c.names)
    (hfold : Text.equalFold other name = true) : other = name := by
  obtain ⟨-, ⟨old, hold, -⟩ | ⟨-, hnew⟩⟩ := judge_eq_true_iff.1 hjudge
  · have hname : name ∈ c.names := by rw [mem_names_iff, hold, Option.isSome_some]
    exact hc.distinct other hother name hname hfold
  · rw [hnew other hother] at hfold
    exact absurd hfold Bool.false_ne_true

/-- **A store keeps a catalog sound.**

**Proof sketch.** The names still ascend because the new one is inserted in order. Each other
condition is asked of the new name, of which the judgement says what is needed, and of the old ones,
for which it held before. -/
lemma Sound.store {c : Catalog} (hc : c.Sound) {name : String} {s : Schema}
    (hjudge : c.judge name s = .ok true) : (c.store name s).Sound where
  ascending := Json.pairwise_keys_insertSorted hc.ascending
  nonempty := by
    intro other hother
    rcases mem_names_store.1 hother with rfl | hother
    · exact (judge_eq_true_iff.1 hjudge).1
    · exact hc.nonempty other hother
  distinct := by
    intro m hm n hn hfold
    rcases mem_names_store.1 hm with rfl | hmc
    · rcases mem_names_store.1 hn with rfl | hnc
      · rfl
      · rw [equalFold_comm] at hfold
        exact (hc.eq_of_equalFold hjudge hnc hfold).symm
    · rcases mem_names_store.1 hn with rfl | hnc
      · exact hc.eq_of_equalFold hjudge hmc hfold
      · exact hc.distinct m hmc n hnc hfold
  hoisted := by
    intro other t ht
    rw [get?_store] at ht
    split at ht
    · obtain rfl := Option.some.inj ht
      exact Schema.part?_drop_self s .definitions
    · exact hc.hoisted other t ht

/-- A run keeps a catalog sound. -/
lemma Sound.run {c c' : Catalog} {log : List (String × Schema)} (hc : c.Sound)
    (h : Run c log c') : c'.Sound :=
  h.induct (fun _ _ _ hd hjudge => hd.store hjudge) hc

/-- **After any calls, refused ones included**, no name is empty, no two names are equal up to case,
and no schema has definitions of its own. The names ascend strictly; they are those under which a
schema is found, and those under which one of the calls stored something.

**Proof sketch.** Calls are a run along the log, and a run keeps a catalog sound. All but the last
statement are the conditions of soundness, and the names are those of the log because a run adds no
others. -/
theorem names_after (calls : List Call) :
    (∀ name ∈ (empty.after calls).names, name ≠ "") ∧
      (∀ m ∈ (empty.after calls).names, ∀ n ∈ (empty.after calls).names,
        m ≠ n → Text.equalFold m n = false) ∧
      (∀ name s, (empty.after calls).get? name = some s → s.part? .definitions = none) ∧
      (empty.after calls).names.Pairwise (· < ·) ∧
      (∀ name, name ∈ (empty.after calls).names ↔
        ((empty.after calls).get? name).isSome = true) ∧
      ∀ name, name ∈ (empty.after calls).names ↔ name ∈ (empty.logAfter calls).map (·.1) := by
  have hrun := run_after empty calls
  have hsound : (empty.after calls).Sound := sound_empty.run hrun
  refine ⟨hsound.nonempty, ?_, hsound.hoisted, hsound.ascending, fun _ => mem_names_iff, ?_⟩
  · intro m hm n hn hne
    by_contra hfold
    exact hne (hsound.distinct m hm n hn (by simpa using hfold))
  · intro name
    rw [hrun.mem_names]
    simp [names, empty]

end SchemaKit.Catalog
