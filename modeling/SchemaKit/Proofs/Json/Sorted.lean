import Mathlib.Data.List.Induction
import Mathlib.Data.List.Nodup
import Mathlib.Data.String.Basic
import SchemaKit.Json.Basic

/-!
# Association lists in key order

`insertSorted` and `lookup?` behave like writing and reading one entry of a finite map. Only the
statement about the order needs that the list was in order before.

## Main results

* `SchemaKit.Json.lookup?_insertSorted` — reading after writing.
* `SchemaKit.Json.mem_keys_insertSorted`, `SchemaKit.Json.pairwise_keys_insertSorted` — the keys
  after writing, and their order.
* `SchemaKit.Json.lookup?_sortLast` — in order, a name keeps its last member.
-/

namespace SchemaKit.Json

section

variable {α : Type} {k k' : String} {v w : α} {entries : List (String × α)}

/-- The entry of the first key. -/
lemma lookup?_cons :
    lookup? ((k', w) :: entries) k = if k' = k then some w else lookup? entries k := by
  by_cases h : k' = k <;> simp [lookup?, h]

/-- A key has an entry iff it stands in the list. -/
lemma isSome_lookup?_iff : (lookup? entries k).isSome = true ↔ k ∈ entries.map (·.1) := by
  simp [lookup?]

/-- The entry of a key stands in the list. -/
lemma mem_of_lookup?_eq_some (h : lookup? entries k = some v) : (k, v) ∈ entries := by
  obtain ⟨⟨k', v'⟩, hfind, rfl⟩ := Option.map_eq_some_iff.1 h
  obtain rfl : k' = k := by simpa using List.find?_some hfind
  exact List.mem_of_find?_eq_some hfind

/-- Where no key is repeated, the entry of a key is the one that stands in the list. -/
lemma lookup?_eq_some_iff (h : (entries.map (·.1)).Nodup) :
    lookup? entries k = some v ↔ (k, v) ∈ entries := by
  refine ⟨mem_of_lookup?_eq_some, fun hmem => ?_⟩
  obtain ⟨w, hw⟩ := Option.isSome_iff_exists.1
    (isSome_lookup?_iff.2 (List.mem_map.2 ⟨(k, v), hmem, rfl⟩))
  obtain ⟨-, rfl⟩ := Prod.mk.inj
    (List.inj_on_of_nodup_map h hmem (mem_of_lookup?_eq_some hw) rfl)
  exact hw

/-- **Reading after writing**: the written key has the new entry, the others keep theirs.

**Proof sketch.** Induction on the entries. The new entry is written in front of the first larger
key, replaces an equal one, or goes further behind. -/
lemma lookup?_insertSorted :
    lookup? (insertSorted k v entries) k' = if k = k' then some v else lookup? entries k' := by
  induction entries with
  | nil => rw [insertSorted, lookup?_cons]
  | cons e rest ih =>
    obtain ⟨key, old⟩ := e
    rw [insertSorted]
    split
    · rw [lookup?_cons]
    · split
      · -- the entry of the key itself is replaced
        rename_i heq
        subst heq
        rw [lookup?_cons, lookup?_cons]
        split <;> rfl
      · rename_i hne
        rw [lookup?_cons, lookup?_cons, ih]
        by_cases hk : key = k'
        · have hkk' : k ≠ k' := fun h => hne (h.trans hk.symm)
          rw [if_pos hk, if_neg hkk', if_pos hk]
        · rw [if_neg hk, if_neg hk]

/-- Writing adds one key to the keys. -/
lemma mem_keys_insertSorted :
    k' ∈ (insertSorted k v entries).map (·.1) ↔ k' = k ∨ k' ∈ entries.map (·.1) := by
  rw [← isSome_lookup?_iff, lookup?_insertSorted, ← isSome_lookup?_iff]
  by_cases h : k = k'
  · simp [h]
  · simp [h, Ne.symm h]

/-- **Writing keeps the keys in strictly ascending order.**

**Proof sketch.** Induction on the entries. Where the key is written, it is less than the key behind
it, and all keys further behind are larger still. -/
lemma pairwise_keys_insertSorted (h : (entries.map (·.1)).Pairwise (· < ·)) :
    ((insertSorted k v entries).map (·.1)).Pairwise (· < ·) := by
  induction entries with
  | nil => simp [insertSorted]
  | cons e rest ih =>
    obtain ⟨key, old⟩ := e
    rw [List.map_cons, List.pairwise_cons] at h
    obtain ⟨hfirst, hrest⟩ := h
    rw [insertSorted]
    split
    · rename_i hlt
      refine List.pairwise_cons.2 ⟨?_, List.pairwise_cons.2 ⟨hfirst, hrest⟩⟩
      intro other hother
      rcases List.mem_cons.1 hother with rfl | hother
      · exact hlt
      · exact hlt.trans (hfirst other hother)
    · split
      · rename_i heq
        subst heq
        exact List.pairwise_cons.2 ⟨hfirst, hrest⟩
      · rename_i hnlt hne
        refine List.pairwise_cons.2 ⟨?_, ih hrest⟩
        intro other hother
        rcases mem_keys_insertSorted.1 hother with rfl | hother
        · exact lt_of_le_of_ne (not_lt.1 hnlt) (Ne.symm hne)
        · exact hfirst other hother

/-- What stands in the list after writing is what was written, or stood there before.

**Proof sketch.** Induction on the entries, by the same three cases as the writing. -/
lemma mem_of_mem_insertSorted {e : String × α} (h : e ∈ insertSorted k v entries) :
    e = (k, v) ∨ e ∈ entries := by
  induction entries with
  | nil => simpa [insertSorted] using h
  | cons e' rest ih =>
    obtain ⟨key, old⟩ := e'
    rw [insertSorted] at h
    split at h
    · exact List.mem_cons.1 h
    · split at h
      · exact (List.mem_cons.1 h).imp_right (List.mem_cons_of_mem _)
      · rcases List.mem_cons.1 h with rfl | h
        · exact .inr List.mem_cons_self
        · exact (ih h).imp_right (List.mem_cons_of_mem _)

/-- A key behind all others is written at the end. -/
lemma insertSorted_eq_append (h : ∀ e ∈ entries, e.1 < k) :
    insertSorted k v entries = entries ++ [(k, v)] := by
  induction entries with
  | nil => rfl
  | cons e rest ih =>
    obtain ⟨key, old⟩ := e
    have hkey : key < k := h (key, old) List.mem_cons_self
    rw [insertSorted, if_neg hkey.not_gt, if_neg hkey.ne',
      ih fun e he => h e (List.mem_cons_of_mem _ he), List.cons_append]

/-! ## Writing several entries -/

/-- Entries in order are written one behind the other.

**Proof sketch.** Induction on the entries that are written: each of them is larger than all that
stand there, and so it goes to the end. -/
lemma foldl_insertSorted_eq_append {es : List (String × α)}
    (h : ((entries ++ es).map (·.1)).Pairwise (· < ·)) :
    es.foldl (fun acc e => insertSorted e.1 e.2 acc) entries = entries ++ es := by
  induction es generalizing entries with
  | nil => simp
  | cons e rest ih =>
    have hlast : ∀ e' ∈ entries, e'.1 < e.1 := by
      rw [List.map_append, List.pairwise_append] at h
      intro e' he'
      exact h.2.2 e'.1 (List.mem_map_of_mem he') e.1 (by simp)
    rw [List.foldl_cons, insertSorted_eq_append hlast, ih (by simpa using h)]
    simp

/-- Entries in order stay as they are. -/
lemma sortLast_eq_self (h : (entries.map (·.1)).Pairwise (· < ·)) :
    sortLast entries = entries := by
  rw [sortLast, foldl_insertSorted_eq_append (by simpa using h), List.nil_append]

/-- Sorted entries are in strictly ascending order of their keys. -/
lemma pairwise_keys_sortLast : ((sortLast entries).map (·.1)).Pairwise (· < ·) :=
  List.foldlRecOn entries (fun acc e => insertSorted e.1 e.2 acc)
    (motive := fun acc => (acc.map (·.1)).Pairwise (· < ·)) .nil
    fun _ hacc _ _ => pairwise_keys_insertSorted hacc

/-- Writing an entry and changing the values goes in any order.

**Proof sketch.** Induction on the entries: the place depends on the keys only. -/
lemma insertSorted_map {β : Type} (g : α → β) :
    insertSorted k (g v) (entries.map fun e => (e.1, g e.2)) =
      (insertSorted k v entries).map fun e => (e.1, g e.2) := by
  induction entries with
  | nil => rfl
  | cons e rest ih =>
    obtain ⟨key, old⟩ := e
    simp only [List.map_cons, insertSorted]
    split
    · rfl
    · split
      · rfl
      · rw [ih, List.map_cons]

/-- Sorting entries and changing the values goes in any order.

**Proof sketch.** The same holds of the writing of all entries into any list, by induction with
`insertSorted_map`. -/
lemma sortLast_map {β : Type} (g : α → β) (entries : List (String × α)) :
    sortLast (entries.map fun e => (e.1, g e.2)) =
      (sortLast entries).map fun e => (e.1, g e.2) := by
  have hfold : ∀ acc : List (String × α),
      (entries.map fun e => (e.1, g e.2)).foldl (fun acc e => insertSorted e.1 e.2 acc)
          (acc.map fun e => (e.1, g e.2)) =
        (entries.foldl (fun acc e => insertSorted e.1 e.2 acc) acc).map fun e => (e.1, g e.2) := by
    induction entries with
    | nil => exact fun _ => rfl
    | cons e rest ih =>
      intro acc
      rw [List.map_cons, List.foldl_cons, List.foldl_cons, ← ih, ← insertSorted_map]
  exact hfold []

/-- Sorting brings in no entries. -/
lemma mem_of_mem_sortLast {e : String × α} (h : e ∈ sortLast entries) : e ∈ entries := by
  have hall : ∀ e ∈ sortLast entries, e ∈ entries :=
    List.foldlRecOn entries (fun acc e => insertSorted e.1 e.2 acc)
      (motive := fun acc => ∀ e ∈ acc, e ∈ entries) (by simp)
      fun acc hacc e' he' e he => by
        rcases mem_of_mem_insertSorted he with rfl | he
        · exact he'
        · exact hacc e he
  exact hall e h

/-- Sorting keeps all keys.

**Proof sketch.** The same holds of the writing of all entries into any list, by induction. -/
lemma mem_keys_sortLast : k ∈ (sortLast entries).map (·.1) ↔ k ∈ entries.map (·.1) := by
  have hfold : ∀ acc : List (String × α),
      k ∈ (entries.foldl (fun acc e => insertSorted e.1 e.2 acc) acc).map (·.1) ↔
        k ∈ acc.map (·.1) ∨ k ∈ entries.map (·.1) := by
    induction entries with
    | nil => simp
    | cons e rest ih =>
      intro acc
      rw [List.foldl_cons, ih, mem_keys_insertSorted, List.map_cons, List.mem_cons, or_assoc,
        or_left_comm]
  simpa [sortLast] using hfold []

/-- Sorting keeps all entries if no key is repeated. -/
lemma mem_sortLast_iff (h : (entries.map (·.1)).Nodup) {e : String × α} :
    e ∈ sortLast entries ↔ e ∈ entries := by
  refine ⟨mem_of_mem_sortLast, fun hmem => ?_⟩
  obtain ⟨e', he', hkey⟩ := List.mem_map.1
    (mem_keys_sortLast.2 (List.mem_map.2 ⟨e, hmem, rfl⟩))
  rwa [← List.inj_on_of_nodup_map h (mem_of_mem_sortLast he') hmem hkey]

/-- A key before all others has no entry. -/
lemma lookup?_eq_none_of_lt (h : ∀ key ∈ entries.map (·.1), k < key) : lookup? entries k = none := by
  rw [← Option.not_isSome_iff_eq_none, isSome_lookup?_iff]
  exact fun hmem => lt_irrefl k (h k hmem)

/-- A key before the first one of a list in order has no entry. -/
lemma lookup?_cons_eq_none_of_lt {k' : String} {v : α} (h : ∀ key ∈ entries.map (·.1), k' < key)
    (hlt : k < k') : lookup? ((k', v) :: entries) k = none := by
  refine lookup?_eq_none_of_lt fun key hkey => ?_
  rcases List.mem_cons.1 hkey with rfl | hkey
  · exact hlt
  · exact hlt.trans (h key hkey)

/-- **Lists in order are determined by their entries.**

**Proof sketch.** Induction on both lists. If the two first keys differ, the smaller one has an
entry in one list only. If they are equal, so are their values, and the rests agree on every key. -/
lemma eq_of_lookup?_eq {es : List (String × α)} (h : (entries.map (·.1)).Pairwise (· < ·))
    (h' : (es.map (·.1)).Pairwise (· < ·)) (heq : ∀ k, lookup? entries k = lookup? es k) :
    entries = es := by
  induction entries generalizing es with
  | nil =>
    cases es with
    | nil => rfl
    | cons e rest =>
      have := heq e.1
      rw [lookup?_cons, if_pos rfl] at this
      simp [lookup?] at this
  | cons e rest ih =>
    obtain ⟨k, v⟩ := e
    cases es with
    | nil =>
      have := heq k
      rw [lookup?_cons, if_pos rfl] at this
      simp [lookup?] at this
    | cons e' rest' =>
      obtain ⟨k', v'⟩ := e'
      rw [List.map_cons, List.pairwise_cons] at h h'
      have hlookup := heq k
      rw [lookup?_cons, if_pos rfl] at hlookup
      have hlookup' := (heq k').symm
      rw [lookup?_cons, if_pos rfl] at hlookup'
      -- the smaller one of the two first keys would have an entry in one list only
      rcases lt_trichotomy k k' with hlt | rfl | hlt
      · rw [lookup?_cons_eq_none_of_lt h'.1 hlt] at hlookup
        cases hlookup
      · rw [lookup?_cons, if_pos rfl] at hlookup
        obtain rfl := Option.some.inj hlookup
        rw [ih h.2 h'.2 fun key => ?_]
        have hkey := heq key
        rw [lookup?_cons, lookup?_cons] at hkey
        by_cases hk : k = key
        · subst hk
          rw [lookup?_eq_none_of_lt h.1, lookup?_eq_none_of_lt h'.1]
        · rwa [if_neg hk, if_neg hk] at hkey
      · rw [lookup?_cons_eq_none_of_lt h.1 hlt] at hlookup'
        cases hlookup'

/-- Lists in order with the same entries are equal. -/
lemma eq_of_mem_iff {es : List (String × α)} (h : (entries.map (·.1)).Pairwise (· < ·))
    (h' : (es.map (·.1)).Pairwise (· < ·)) (hmem : ∀ e, e ∈ entries ↔ e ∈ es) : entries = es := by
  refine eq_of_lookup?_eq h h' fun k => Option.ext fun v => ?_
  rw [lookup?_eq_some_iff h.nodup, lookup?_eq_some_iff h'.nodup, hmem]

end

/-! ## The last member with a name -/

section

variable {members : List (String × Json)} {name : String} {v : Json}

/-- The last member counts if it has the name. -/
lemma last?_concat (m : String × Json) :
    last? (members ++ [m]) name = if m.1 = name then some m.2 else last? members name := by
  have hlast : ∀ ms : List (String × Json), last? ms name = lookup? ms.reverse name := fun _ => rfl
  rw [hlast, List.reverse_append, List.reverse_singleton, List.singleton_append, lookup?_cons, hlast]

/-- **In order, a name keeps its last member.** -/
lemma lookup?_sortLast : lookup? (sortLast members) name = last? members name := by
  induction members using List.reverseRecOn with
  | nil => rfl
  | append_singleton ms m ih =>
    have hsort : sortLast (ms ++ [m]) = insertSorted m.1 m.2 (sortLast ms) := by
      rw [sortLast, List.foldl_append, List.foldl_cons, List.foldl_nil, sortLast]
    rw [hsort, lookup?_insertSorted, last?_concat, ih]

/-- The last member with a name stands in the list. -/
lemma mem_of_last?_eq_some (h : last? members name = some v) : (name, v) ∈ members :=
  List.mem_reverse.1 (mem_of_lookup?_eq_some h)

/-- Where no name is repeated, the last member with a name is the one that stands in the list. -/
lemma last?_eq_some_iff (h : (members.map (·.1)).Nodup) :
    last? members name = some v ↔ (name, v) ∈ members := by
  have hreverse : (members.reverse.map (·.1)).Nodup := by rwa [List.map_reverse, List.nodup_reverse]
  have hlast : last? members name = lookup? members.reverse name := rfl
  rw [hlast, lookup?_eq_some_iff hreverse, List.mem_reverse]

/-- Where no name is repeated, the last member with a name is the first one. -/
lemma last?_eq_lookup? (h : (members.map (·.1)).Nodup) (name : String) :
    last? members name = lookup? members name := by
  ext v
  rw [last?_eq_some_iff h, lookup?_eq_some_iff h]

end

end SchemaKit.Json
