import Mathlib.Data.List.Basic
import Mathlib.Data.List.Induction
import Mathlib.Data.List.Nodup
import Mathlib.Order.Lattice
import Mathlib.Tactic.Common
import SchemaKit.Users.Index

/-!
# What an index of users holds

An index is made of users, each stored under its id, and then changed step by step. What it holds
under a key is decided by the last step about this key alone: it is the user that the step writes, or
nothing if the step deletes. So the steps of the past, read backwards, say all about an index.

## Main definitions

* `SchemaKit.UserIndex.Step`, `SchemaKit.UserIndex.after` — steps that change an index, and the index
  after several.
* `SchemaKit.UserIndex.history` — all steps that lead to an index, those included by which it is made
  of users.
* `SchemaKit.UserIndex.LastWrites` — whether the last step about a key writes a user.

## Main results

* `SchemaKit.UserIndex.lookup_apply`, `SchemaKit.UserIndex.lookup_after_iff` — what is found after one
  step, and after several.
* `SchemaKit.UserIndex.Ascending.apply` — every step keeps the keys in order.
* `SchemaKit.UserIndex.lookup_ofList` — what is found in an index made of users is what a search
  through them from the end finds.
* `SchemaKit.UserIndex.holds_lastWrites` — what an index holds after any steps.
-/

namespace SchemaKit.UserIndex

/-! ## Steps -/

/-- A step that changes an index: a user is stored under its id, or under any key, or a key is
deleted. -/
inductive Step where
  | put (u : User)
  | set (key : Int) (u : User)
  | delete (key : Int)
  deriving DecidableEq

namespace Step

/-- The key that a step is about. -/
def key : Step → Int
  | put u => u.id
  | set key _ | delete key => key

/-- The user that a step writes. -/
def user? : Step → Option User
  | put u | set _ u => some u
  | delete _ => none

/-- The index after a step. -/
def apply (m : UserIndex) : Step → UserIndex
  | put u => m.put u
  | set key u => m.set key u
  | delete key => m.delete key

/-- A step that writes nothing deletes its key. -/
lemma eq_delete_of_user?_eq_none {step : Step} (h : step.user? = none) :
    step = delete step.key := by
  cases step with
  | put | set => cases h
  | delete => rfl

end Step

/-- The index after several steps. -/
def after (m : UserIndex) (steps : List Step) : UserIndex := steps.foldl Step.apply m

/-- The steps that lead to an index: users are stored one by one, and then it is changed. -/
def history (users : List User) (steps : List Step) : List Step := users.map .put ++ steps

/-- The last step about a key writes a user: there is a step that does, and no later one is about the
key, be it to write or to delete. -/
def LastWrites (steps : List Step) (key : Int) (u : User) : Prop :=
  ∃ before step later, steps = before ++ step :: later ∧ step.key = key ∧ step.user? = some u ∧
    ∀ other ∈ later, other.key ≠ key

/-- Where a step stands in a list with one more step at the end: it is that step, or stands before it.

**Proof sketch.** By whether there are steps behind the one in question. -/
lemma concat_eq_append_cons_iff {init before later : List Step} {last step : Step} :
    init ++ [last] = before ++ step :: later ↔
      (before = init ∧ step = last ∧ later = []) ∨
        ∃ mid, init = before ++ step :: mid ∧ later = mid ++ [last] := by
  induction later using List.reverseRecOn with
  | nil =>
    rw [List.append_singleton_inj]
    simp [eq_comm (a := init), eq_comm (a := last)]
  | append_singleton mid other =>
    rw [← List.cons_append, ← List.append_assoc, List.append_singleton_inj]
    simp only [List.append_singleton_inj, List.append_eq_nil_iff, reduceCtorEq, and_false,
      false_or]
    constructor
    · rintro ⟨hinit, rfl⟩
      exact ⟨mid, hinit, rfl, rfl⟩
    · rintro ⟨_, hinit, rfl, rfl⟩
      exact ⟨hinit, rfl⟩

/-- What is written last, seen from the end: the last step decides if it is about the key.

**Proof sketch.** The last step is the one in question, or it stands behind it and is then not about
the key. -/
lemma lastWrites_concat {steps : List Step} {last : Step} {key : Int} {u : User} :
    LastWrites (steps ++ [last]) key u ↔
      if last.key = key then last.user? = some u else LastWrites steps key u := by
  constructor
  · rintro ⟨before, step, later, heq, hkey, huser, hlater⟩
    rcases concat_eq_append_cons_iff.1 heq with ⟨-, rfl, -⟩ | ⟨mid, hsteps, rfl⟩
    · rwa [if_pos hkey]
    · rw [if_neg (hlater last (by simp))]
      exact ⟨before, step, mid, hsteps, hkey, huser, fun other h => hlater other (by simp [h])⟩
  · intro h
    split_ifs at h with hlast
    · exact ⟨steps, last, [], rfl, hlast, h, by simp⟩
    · obtain ⟨before, step, mid, rfl, hkey, huser, hlater⟩ := h
      refine ⟨before, step, mid ++ [last], by simp, hkey, huser, ?_⟩
      intro other hother
      rcases List.mem_append.1 hother with h | h
      · exact hlater other h
      · obtain rfl := List.mem_singleton.1 h
        exact hlast

/-! ## What is found -/

section

variable {m : UserIndex} {key other : Int} {u : User}

/-- What is found under the first key, and under the others. -/
lemma lookup_cons {entries : List (Int × User)} :
    lookup ⟨(key, u) :: entries⟩ other = if key = other then some u else lookup ⟨entries⟩ other := by
  by_cases h : key = other <;> simp [lookup, h]

/-- What is found after a user was stored under a key.

**Proof sketch.** Induction on the entries, by the place where the key belongs. -/
lemma lookup_set : (m.set key u).lookup other = if key = other then some u else m.lookup other := by
  obtain ⟨entries⟩ := m
  rw [set]
  induction entries with
  | nil => rw [insert, lookup_cons]
  | cons e rest ih =>
    obtain ⟨k, old⟩ := e
    rw [insert]
    split
    · rw [lookup_cons]
    · split
      · next heq =>
        -- the entry of the key itself is replaced
        subst heq
        rw [lookup_cons, lookup_cons]
        split <;> rfl
      · next hne =>
        rw [lookup_cons, lookup_cons, ih]
        by_cases hk : k = other
        · have hkey : key ≠ other := fun h => hne (h.trans hk.symm)
          rw [if_pos hk, if_neg hkey, if_pos hk]
        · rw [if_neg hk, if_neg hk]

/-- What is found after a key was deleted.

**Proof sketch.** Induction on the entries: the one with the key is left out. -/
lemma lookup_delete :
    (m.delete key).lookup other = if key = other then none else m.lookup other := by
  obtain ⟨entries⟩ := m
  rw [delete]
  induction entries with
  | nil => simp [lookup]
  | cons e rest ih =>
    obtain ⟨k, old⟩ := e
    by_cases hk : k = key
    · rw [List.filter_cons_of_neg (by simp [hk]), ih, lookup_cons, hk]
      split <;> rfl
    · rw [List.filter_cons_of_pos (by simp [hk]), lookup_cons, lookup_cons, ih]
      by_cases hother : key = other
      · rw [if_pos hother, if_pos hother, if_neg (fun h => hk (h.trans hother.symm))]
      · rw [if_neg hother, if_neg hother]

/-- **What is found after a step**: under its key what it writes, under other keys what was there. -/
lemma lookup_apply (step : Step) :
    (step.apply m).lookup key = if step.key = key then step.user? else m.lookup key := by
  cases step with
  | put u => exact lookup_set
  | set => exact lookup_set
  | delete => exact lookup_delete

end

/-- **What is found after steps** is what the last step about the key writes. -/
lemma lookup_after_iff (steps : List Step) (key : Int) (u : User) :
    (empty.after steps).lookup key = some u ↔ LastWrites steps key u := by
  induction steps using List.reverseRecOn with
  | nil => simp [after, empty, lookup, LastWrites]
  | append_singleton steps step ih =>
    rw [lastWrites_concat, after, List.foldl_concat, lookup_apply]
    split_ifs
    · rfl
    · exact ih

/-- An index made of users and changed by steps is the empty one after all these steps. -/
lemma after_ofList (users : List User) (steps : List Step) :
    (ofList users).after steps = empty.after (history users steps) := by
  rw [history, after, after, List.foldl_append, List.foldl_map]
  rfl

/-- **Nothing is found** under a key iff every write to it is followed by its deletion.

**Proof sketch.** Induction on the steps from the end. If the last step is about the key it decides:
it is a deletion, or it is a write with nothing behind it. -/
lemma lookup_after_eq_none_iff (steps : List Step) (key : Int) :
    (empty.after steps).lookup key = none ↔
      ∀ before step later, steps = before ++ step :: later → step.key = key →
        step.user?.isSome = true → .delete key ∈ later := by
  induction steps using List.reverseRecOn with
  | nil => simp [after, empty, lookup]
  | append_singleton steps last ih =>
    rw [after, List.foldl_concat, lookup_apply]
    constructor
    · intro hnone before step later heq hkey hwrites
      rcases concat_eq_append_cons_iff.1 heq with ⟨-, rfl, -⟩ | ⟨mid, hsteps, rfl⟩
      · rw [if_pos hkey] at hnone
        simp [hnone] at hwrites
      · split_ifs at hnone with hlast
        · rw [Step.eq_delete_of_user?_eq_none hnone, hlast]
          simp
        · exact List.mem_append_left _ (ih.1 hnone before step mid hsteps hkey hwrites)
    · intro hdeleted
      split_ifs with hlast
      · by_contra hwrites
        have hmem := hdeleted steps last [] rfl hlast (Option.isSome_iff_ne_none.2 hwrites)
        simp at hmem
      · refine ih.2 fun before step later heq hkey hwrites => ?_
        have hmem := hdeleted before step (later ++ [last]) (by simp [heq]) hkey hwrites
        rcases List.mem_append.1 hmem with h | h
        · exact h
        · obtain rfl := List.mem_singleton.1 h
          exact absurd rfl hlast

/-! ## The order of the keys -/

/-- The keys of an index ascend. -/
def Ascending (m : UserIndex) : Prop := (m.entries.map (·.1)).Pairwise (· < ·)

section

variable {m : UserIndex} {key : Int} {u : User}

/-- The keys are those under which something is found. -/
lemma mem_keys_iff : key ∈ m.entries.map (·.1) ↔ (m.lookup key).isSome = true := by
  simp [lookup]

/-- The keys after a user was stored. -/
lemma mem_keys_set {other : Int} :
    other ∈ (m.set key u).entries.map (·.1) ↔ other = key ∨ other ∈ m.entries.map (·.1) := by
  rw [mem_keys_iff, lookup_set, mem_keys_iff]
  by_cases h : key = other
  · simp [h]
  · simp [h, Ne.symm h]

namespace Ascending

/-- Storing a user keeps the keys in order.

**Proof sketch.** Induction on the entries, by the place where the key belongs. -/
lemma set (h : m.Ascending) : (m.set key u).Ascending := by
  obtain ⟨entries⟩ := m
  rw [Ascending, UserIndex.set] at *
  induction entries with
  | nil => simp [insert]
  | cons e rest ih =>
    obtain ⟨k, old⟩ := e
    rw [List.map_cons, List.pairwise_cons] at h
    obtain ⟨hfirst, hrest⟩ := h
    rw [insert]
    split_ifs with hlt heq
    · refine List.pairwise_cons.2 ⟨?_, List.pairwise_cons.2 ⟨hfirst, hrest⟩⟩
      intro other hother
      rcases List.mem_cons.1 hother with rfl | hother
      · exact hlt
      · exact hlt.trans (hfirst other hother)
    · subst heq
      exact List.pairwise_cons.2 ⟨hfirst, hrest⟩
    · refine List.pairwise_cons.2 ⟨?_, ih hrest⟩
      intro other hother
      rcases (mem_keys_set (m := ⟨rest⟩)).1 hother with rfl | hother
      · exact lt_of_le_of_ne (not_lt.1 hlt) (Ne.symm heq)
      · exact hfirst other hother

/-- **Every step keeps the keys in order.** -/
lemma apply (h : m.Ascending) (step : Step) : (step.apply m).Ascending := by
  cases step with
  | put u => exact h.set
  | set key u => exact h.set
  | delete key => exact h.sublist (List.filter_sublist.map _)

/-- Any steps keep the keys in order. -/
lemma after (h : m.Ascending) (steps : List Step) : (m.after steps).Ascending := by
  induction steps generalizing m with
  | nil => exact h
  | cons step rest ih => exact ih (h.apply step)

/-- The entry of a key is the one that stands in the index.

**Proof sketch.** Each key stands in the index at most once, so the entry that is found is the one
that is there. -/
lemma lookup_eq_some_iff (h : m.Ascending) : m.lookup key = some u ↔ (key, u) ∈ m.entries := by
  constructor
  · intro hlookup
    obtain ⟨⟨k, v⟩, hfind, rfl⟩ := Option.map_eq_some_iff.1 hlookup
    obtain rfl : k = key := by simpa using List.find?_some hfind
    exact List.mem_of_find?_eq_some hfind
  · intro hmem
    obtain ⟨v, hv⟩ := Option.isSome_iff_exists.1
      (mem_keys_iff.1 (List.mem_map.2 ⟨(key, u), hmem, rfl⟩))
    obtain ⟨⟨k, w⟩, hfind, rfl⟩ := Option.map_eq_some_iff.1 hv
    obtain rfl : k = key := by simpa using List.find?_some hfind
    have hsame := List.inj_on_of_nodup_map (h.imp ne_of_lt) (List.mem_of_find?_eq_some hfind) hmem rfl
    rw [lookup, hfind, hsame]
    rfl

/-- The keys that are not the id of their user ascend. -/
lemma mismatched (h : m.Ascending) : m.mismatched.Pairwise (· < ·) :=
  h.sublist (List.filter_sublist.map _)

/-- The keys that are not the id of their user. -/
lemma mem_mismatched_iff (h : m.Ascending) :
    key ∈ m.mismatched ↔ ∃ u, m.lookup key = some u ∧ u.id ≠ key := by
  simp only [UserIndex.mismatched, List.mem_map, List.mem_filter, h.lookup_eq_some_iff, bne_iff_ne]
  constructor
  · rintro ⟨⟨k, u⟩, ⟨hmem, hne⟩, rfl⟩
    exact ⟨u, hmem, Ne.symm hne⟩
  · rintro ⟨u, hmem, hne⟩
    exact ⟨(key, u), ⟨hmem, Ne.symm hne⟩, rfl⟩

end Ascending

end

/-- The empty index. -/
lemma ascending_empty : empty.Ascending := List.Pairwise.nil

/-! ## An index of users -/

/-- **An index made of users** holds under an id what a search from the end of the users finds. -/
lemma lookup_ofList (users : List User) (id : Int) :
    (ofList users).lookup id = findById User.id users.reverse id := by
  induction users using List.reverseRecOn with
  | nil => rfl
  | append_singleton users u ih =>
    rw [ofList, List.foldl_concat, put, lookup_set, ← ofList, ih, List.reverse_concat, findById,
      findById]
    by_cases h : u.id = id <;> simp [h]

/-- **What an index holds.** However it was made of users and changed since: under each key stands
the user that the last step about the key writes, if it writes one, and nothing iff every write to the
key is followed by its deletion. The keys that are not the id of their user ascend; they are exactly
the keys under which a user with another id is found, and there are none if no user was stored under
such a key. Before the first change, the index holds under an id what a search from the end of the
users finds.

**Proof sketch.** The index is the empty one after all steps of its history. A step changes what is
found under its own key only, so the last step about a key decides, and every step keeps the keys in
order. -/
theorem holds_lastWrites (users : List User) (steps : List Step) :
    (∀ key u, ((ofList users).after steps).lookup key = some u ↔
        LastWrites (history users steps) key u) ∧
      (∀ key, ((ofList users).after steps).lookup key = none ↔
        ∀ before step later, history users steps = before ++ step :: later → step.key = key →
          step.user?.isSome = true → .delete key ∈ later) ∧
      ((ofList users).after steps).mismatched.Pairwise (· < ·) ∧
      (∀ key, key ∈ ((ofList users).after steps).mismatched ↔
        ∃ u, ((ofList users).after steps).lookup key = some u ∧ u.id ≠ key) ∧
      ((∀ key u, .set key u ∈ steps → u.id = key) →
        ((ofList users).after steps).mismatched = []) ∧
      ∀ id, (ofList users).lookup id = findById User.id users.reverse id := by
  rw [after_ofList]
  have hascending := ascending_empty.after (history users steps)
  refine ⟨lookup_after_iff _, lookup_after_eq_none_iff _, hascending.mismatched,
    fun key => hascending.mem_mismatched_iff, fun hmatched => ?_, lookup_ofList users⟩
  refine List.eq_nil_iff_forall_not_mem.2 fun key hkey => ?_
  obtain ⟨u, hlookup, hne⟩ := hascending.mem_mismatched_iff.1 hkey
  obtain ⟨before, step, later, heq, rfl, huser, -⟩ := (lookup_after_iff _ _ _).1 hlookup
  have hstep : step ∈ history users steps := by simp [heq]
  cases step with
  | put v =>
    obtain rfl := Option.some.inj huser
    exact hne rfl
  | delete => cases huser
  | set key v =>
    obtain rfl := Option.some.inj huser
    refine hne (hmatched key v ?_)
    simpa [history] using hstep

/-- Three users, of whom two have one id. -/
def roster : List User := [⟨1, "Ann", none⟩, ⟨2, "Bo", none⟩, ⟨1, "Ann again", none⟩]

example : ((ofList roster).after
    [.put ⟨3, "Cy", none⟩, .set 10 ⟨11, "Di", none⟩, .set 4 ⟨5, "Ed", none⟩]).mismatched = [4, 10] := by
  decide

/-- Steps that store users under their ids, one of them twice, and delete two keys, one of them for
the time being. -/
def rosterSteps : List Step :=
  [.delete 2, .set 3 ⟨3, "Cy", none⟩, .delete 3, .put ⟨3, "Cy again", none⟩]

/-- The last users under two keys are found, the deleted one is not, and all keys are ids.

**Proof sketch.** For each of the two keys the last write is named, and the steps behind it are
about other keys. -/
theorem holds_lastWrites_roster :
    (∀ key u, .set key u ∈ rosterSteps → u.id = key) ∧
      ((ofList roster).after rosterSteps).mismatched = [] ∧
      ((ofList roster).after rosterSteps).lookup 1 = some ⟨1, "Ann again", none⟩ ∧
      ((ofList roster).after rosterSteps).lookup 3 = some ⟨3, "Cy again", none⟩ ∧
      ((ofList roster).after rosterSteps).lookup 2 = none := by
  obtain ⟨hfound, -, -, -, hmatched, -⟩ := holds_lastWrites roster rosterSteps
  have hids : ∀ key u, Step.set key u ∈ rosterSteps → u.id = key := by
    intro key u hmem
    obtain ⟨rfl, rfl⟩ : key = 3 ∧ u = ⟨3, "Cy", none⟩ := by simpa [rosterSteps] using hmem
    rfl
  refine ⟨hids, hmatched hids, (hfound _ _).2 ?_, (hfound _ _).2 ?_, by decide⟩
  · exact ⟨roster.take 2 |>.map .put, .put ⟨1, "Ann again", none⟩, rosterSteps, rfl, rfl, rfl,
      by decide⟩
  · exact ⟨history roster (rosterSteps.take 3), .put ⟨3, "Cy again", none⟩, [], rfl, rfl, rfl,
      by decide⟩

end SchemaKit.UserIndex
