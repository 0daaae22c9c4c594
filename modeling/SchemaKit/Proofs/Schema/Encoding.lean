import SchemaKit.Proofs.Json.Length
import SchemaKit.Proofs.Json.Writable
import SchemaKit.Schema.Printer

/-!
# Schemas that can be written

Whether a schema can be written is decided by its document: all numbers have to be literals, and the
places inside it must not be nested too deep. Leaving out a part never makes it harder to write a
schema, and it makes the text shorter.

## Main results

* `SchemaKit.Schema.isEncodable_of_fits` — what is not nested too deep can be written.
* `SchemaKit.Schema.isEncodable_drop` — without a part a schema can still be written.
* `SchemaKit.Schema.json_eq_of_encoding?_eq` — schemas with one text have one document.
* `SchemaKit.Schema.length_compact_drop` — parts take room in the text of a schema.
-/

namespace SchemaKit.Schema

/-! ## Documents -/

/-- The members of parts, one for each. -/
lemma partMembers_eq_map (parts : List (Key × Part)) :
    partMembers parts = parts.map fun e => (e.1.name, e.2.json) := by
  induction parts with
  | nil => rfl
  | cons e rest ih =>
    obtain ⟨k, p⟩ := e
    rw [partMembers, ih, List.map_cons]

/-- The values at places, one for each. -/
lemma subItems_eq_map (ss : List Sub) : subItems ss = ss.map Sub.json := by
  induction ss with
  | nil => rfl
  | cons s rest ih => rw [subItems, ih, List.map_cons]

/-- The values at named places, one for each. -/
lemma subMembers_eq_map (es : List (String × Sub)) :
    subMembers es = es.map fun e => (e.1, e.2.json) := by
  induction es with
  | nil => rfl
  | cons e rest ih =>
    obtain ⟨k, s⟩ := e
    rw [subMembers, ih, List.map_cons]

/-! ## Schemas without a part -/

section

variable {s : Schema} {j k : Key}

/-- A part that was dropped is not there. -/
@[simp] lemma part?_drop_self (s : Schema) (k : Key) : (s.drop k).part? k = none := by
  simp [part?, drop, parts]

/-- Dropping a part that is not there changes nothing. -/
lemma drop_eq_self (h : s.part? k = none) : s.drop k = s := by
  obtain ⟨ps, es⟩ := s
  simpa [part?, drop, parts, extra] using h

/-- Parts can be dropped in any order. -/
lemma drop_drop_comm : (s.drop j).drop k = (s.drop k).drop j := by
  simp only [drop, parts, extra, List.filter_filter, Bool.and_comm]

/-- Dropping a part keeps the others. -/
lemma part?_drop_of_ne (h : j ≠ k) : (s.drop j).part? k = s.part? k := by
  simp only [part?, drop, parts, List.find?_filter]
  congr 2
  funext e
  by_cases hk : e.1 = k
  · simp [hk, h.symm]
  · simp [hk]

/-- It makes no difference to the rest of a schema that a part is put in its place. -/
lemma drop_put_self (s : Schema) (p : Part) : (s.put k p).drop k = s.drop k := by
  obtain ⟨ps, es⟩ := s
  simp only [put, drop, parts, extra, mk.injEq, and_true]
  induction ps with
  | nil => simp [insertPart]
  | cons e rest ih =>
    rw [insertPart]
    split_ifs with hsame hbefore
    · simp [hsame]
    · simp
    · rw [List.filter_cons, List.filter_cons, ih]

/-- Dropping a part that is there leaves fewer parts. -/
lemma length_parts_drop_lt (h : s.part? k ≠ none) : (s.drop k).parts.length < s.parts.length := by
  have hmem : ∃ e ∈ s.parts, e.1 = k := by simpa [part?] using h
  rw [drop, parts, List.length_filter_lt_length_iff_exists]
  simpa using hmem

/-- **Parts take room in the text of a schema**, at least one character each.

**Proof sketch.** The members of the schema without a part are a sublist of those of the schema, and
what is left out takes at least one character for each member. -/
lemma length_compact_drop :
    (s.drop k).json.compact.length + (s.parts.length - (s.drop k).parts.length) ≤
      s.json.compact.length := by
  obtain ⟨ps, es⟩ := s
  have hsub : (ps.filter (·.1 ≠ k)).Sublist ps := List.filter_sublist
  have hmembers := Json.length_compactMembers_add_le_of_sublist false ['\x7d']
    ((hsub.map fun e => (e.1.name, e.2.json)).append (List.Sublist.refl es))
  simp only [List.length_append, List.length_map] at hmembers
  simp only [drop, parts, extra, json, partMembers_eq_map, Json.compact, Json.compactOn,
    String.length_ofList, List.length_cons]
  omega

end

/-! ## What can be written -/

section

variable {s t : Schema} {k : Key} {text : String}

/-- When a schema can be written: its document is well formed, and its places are not too deep. -/
lemma isEncodable_iff :
    s.isEncodable = true ↔ s.json.WellFormed ∧ ∀ e ∈ s.parts, e.2.isShallow e.1 = true := by
  rw [isEncodable, Bool.and_eq_true, Json.isWritable_iff, List.all_eq_true]

/-- A part whose value is not nested too deep has places that are not nested too deep.

**Proof sketch.** The value of a place is the value of the part, or lies inside of it. -/
lemma Part.isShallow_of_depth_le {p : Part} (h : p.json.depth ≤ Json.maxDepth) :
    p.isShallow k = true := by
  cases p with
  | data v => rfl
  | one s => simpa [Part.isShallow, Part.json] using h
  | list ss =>
    have hitems : ∀ v ∈ subItems ss, v.depth ≤ Json.maxDepth - 1 := by
      rw [Part.json, Json.depth] at h
      exact Json.depthItems_le_iff.1 (by omega)
    rw [subItems_eq_map, List.forall_mem_map] at hitems
    rw [Part.isShallow]
    split
    · simpa using h
    · simpa using fun s hs => (hitems s hs).trans (Nat.sub_le _ _)
  | named es =>
    have hmembers : ∀ m ∈ subMembers es, m.2.depth ≤ Json.maxDepth - 1 := by
      rw [Part.json, Json.depth] at h
      exact Json.depthMembers_le_iff.1 (by omega)
    rw [subMembers_eq_map, List.forall_mem_map] at hmembers
    simpa [Part.isShallow] using fun n s hs => (hmembers (n, s) hs).trans (Nat.sub_le _ _)

/-- **What is not nested too deep can be written.** The schema itself may be one container deeper than a
text may be, because it is not looked at as a whole. -/
lemma isEncodable_of_fits (h : Json.Fits (Json.maxDepth + 1) s.json) : s.isEncodable = true := by
  refine isEncodable_iff.2 ⟨h.wellFormed, fun e he => Part.isShallow_of_depth_le ?_⟩
  obtain ⟨ps, es⟩ := s
  rw [json, Json.fits_obj_iff] at h
  have hmem : (e.1.name, e.2.json) ∈ partMembers ps ++ es := by
    rw [partMembers_eq_map]
    exact List.mem_append_left _ (List.mem_map.2 ⟨e, he, rfl⟩)
  exact (h _ hmem).depth_le

/-- **Without a part a schema can still be written.** -/
lemma isEncodable_drop (h : s.isEncodable = true) : (s.drop k).isEncodable = true := by
  obtain ⟨hwf, hshallow⟩ := isEncodable_iff.1 h
  refine isEncodable_iff.2 ⟨?_, fun e he => hshallow e (List.mem_filter.1 he).1⟩
  obtain ⟨ps, es⟩ := s
  have hmembers := Json.wellFormedMembers_iff.1 hwf
  refine Json.wellFormedMembers_iff.2 fun m hm => hmembers m ?_
  rw [partMembers_eq_map] at hm ⊢
  refine (List.Sublist.append ?_ (List.Sublist.refl es)).subset hm
  exact (List.filter_sublist (l := ps)).map _

/-- A schema has a text that is compared iff it can be written. -/
lemma encoding?_eq_some_iff : s.encoding? = some text ↔ s.isEncodable = true ∧ s.text = text := by
  rw [encoding?]
  split
  · next h => simp [h]
  · next h => simp [h]

/-- **Schemas with one text have one document.** -/
lemma json_eq_of_encoding?_eq (hs : s.encoding? = some text) (ht : t.encoding? = some text) :
    s.json = t.json := by
  obtain ⟨hsenc, hstext⟩ := encoding?_eq_some_iff.1 hs
  obtain ⟨htenc, httext⟩ := encoding?_eq_some_iff.1 ht
  exact Json.compact_injective (isEncodable_iff.1 hsenc).1 (isEncodable_iff.1 htenc).1
    (hstext.trans httext.symm)

end

end SchemaKit.Schema
