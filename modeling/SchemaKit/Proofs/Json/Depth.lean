import SchemaKit.Proofs.Json.RoundTrip

/-!
# Texts that are nested too deep

The reader has room for a limited number of containers one inside the other. A written value that
needs no more room is read back; one that needs more is refused at the container for which there is
no room left. So the depth of a value alone decides whether its text can be read.

## Main results

* `SchemaKit.Json.Reader.run_compactOn_failed` — a value that is deeper than the room fails.
* `SchemaKit.Json.readWhole_compact_eq_some_iff` — which values are read back from their texts.
-/

namespace SchemaKit.Json

namespace Reader

/-- A failed reader stays failed, whatever follows. -/
lemma run_failed {r : Reader} (h : r.mode = .failed) (cs : List Char) :
    (r.run cs).mode = .failed := by
  induction cs generalizing r with
  | nil => exact h
  | cons c cs ih =>
    have hstep : r.step c = r := by
      obtain ⟨stack, room, mode⟩ := r
      obtain rfl : mode = .failed := h
      rfl
    rw [run_cons, hstep]
    exact ih h

/-- A container for which there is no room fails. -/
lemma run_noRoom (stack : List Frame) {m : Mode} (hm : startsValue m) {c : Char}
    (hc : c = '[' ∨ c = '\x7b') (tail : List Char) :
    ((Reader.mk stack 0 m).run (c :: tail)).mode = .failed := by
  rcases hc with rfl | rfl
  · rw [run_cons, step_startValue stack 0 hm (by decide) (by decide)]
    exact run_failed rfl tail
  · rw [run_cons, step_startValue stack 0 hm (by decide) (by decide)]
    exact run_failed rfl tail

mutual

/-- **A value that is deeper than the room fails.**

**Proof sketch.** By the structure of the value. A container without room fails at once. Otherwise
one of the values inside is deeper than the room that is left; those before it are read, and it
fails by induction. -/
theorem run_compactOn_failed : ∀ (v : Json) (stack : List Frame) (room : Nat) (m : Mode)
    (tail : List Char), v.WellFormed → room < v.depth → startsValue m →
    ((Reader.mk stack room m).run (compactOn v tail)).mode = .failed
  | .null, _, _, _, _, _, hd, _ => absurd hd (Nat.not_lt_zero _)
  | .bool _, _, _, _, _, _, hd, _ => absurd hd (Nat.not_lt_zero _)
  | .num _, _, _, _, _, _, hd, _ => absurd hd (Nat.not_lt_zero _)
  | .str _, _, _, _, _, _, hd, _ => absurd hd (Nat.not_lt_zero _)
  | .arr _, stack, 0, _, tail, _, _, hm => by
    rw [compactOn]
    exact run_noRoom stack hm (.inl rfl) _
  | .obj _, stack, 0, _, tail, _, _, hm => by
    rw [compactOn]
    exact run_noRoom stack hm (.inr rfl) _
  | .arr [], _, room + 1, _, _, _, hd, _ => by
    simp only [depth, depth.depthItems] at hd
    omega
  | .arr (v :: rest), stack, room + 1, m, tail, hv, hd, hm => by
    simp only [depth, depth.depthItems] at hd
    rw [compactOn, run_cons, step_openArray stack room hm]
    simp only [compactItems, Bool.false_eq_true, if_false]
    by_cases hfirst : room < v.depth
    · exact run_compactOn_failed v _ room .firstItem _ hv.1 hfirst trivial
    · rw [run_compactOn v _ room .firstItem _ hv.1 (by omega) trivial
        (endsNumber_compactItems rest tail)]
      exact run_compactItems_failed rest stack room [v] tail hv.2 (by omega)
  | .obj [], _, room + 1, _, _, _, hd, _ => by
    simp only [depth, depth.depthMembers] at hd
    omega
  | .obj ((k, v) :: rest), stack, room + 1, m, tail, hv, hd, hm => by
    simp only [depth, depth.depthMembers] at hd
    rw [compactOn, run_cons, step_openObject stack room hm]
    simp only [compactMembers, Bool.false_eq_true, if_false]
    rw [run_name _ _ (by trivial)]
    by_cases hfirst : room < v.depth
    · exact run_compactOn_failed v _ room .value _ hv.1 hfirst trivial
    · rw [run_compactOn v _ room .value _ hv.1 (by omega) trivial
        (endsNumber_compactMembers rest tail)]
      exact run_compactMembers_failed rest stack room [(k, v)] k tail hv.2 (by omega)

/-- Further items of which one is deeper than the room fail.

**Proof sketch.** By recursion on the items. The first one is too deep itself, or it is read and one
of the others is. -/
theorem run_compactItems_failed : ∀ (items : List Json) (stack : List Frame) (room : Nat)
    (done : List Json) (tail : List Char), WellFormed.wellFormedItems items →
    room < depth.depthItems items →
    ((Reader.mk (.items done :: stack) room .separator).run
        (compactItems items true (']' :: tail))).mode = .failed
  | [], _, _, _, _, _, hd => absurd hd (Nat.not_lt_zero _)
  | v :: rest, stack, room, done, tail, hv, hd => by
    simp only [depth.depthItems] at hd
    simp only [compactItems, if_true]
    rw [run_cons, step_nextItem]
    by_cases hfirst : room < v.depth
    · exact run_compactOn_failed v _ room .value _ hv.1 hfirst trivial
    · rw [run_compactOn v _ room .value _ hv.1 (by omega) trivial
        (endsNumber_compactItems rest tail)]
      exact run_compactItems_failed rest stack room (v :: done) tail hv.2 (by omega)

/-- Further members of which one is deeper than the room fail.

**Proof sketch.** By recursion on the members. The value of the first one is too deep itself, or it
is read and the value of one of the others is. -/
theorem run_compactMembers_failed : ∀ (members : List (String × Json)) (stack : List Frame)
    (room : Nat) (done : List (String × Json)) (name : String) (tail : List Char),
    WellFormed.wellFormedMembers members → room < depth.depthMembers members →
    ((Reader.mk (.members done name :: stack) room .separator).run
        (compactMembers members true ('\x7d' :: tail))).mode = .failed
  | [], _, _, _, _, _, _, hd => absurd hd (Nat.not_lt_zero _)
  | (k, v) :: rest, stack, room, done, name, tail, hv, hd => by
    simp only [depth.depthMembers] at hd
    simp only [compactMembers, if_true]
    rw [run_cons, step_nextName, run_name _ _ (by trivial)]
    by_cases hfirst : room < v.depth
    · exact run_compactOn_failed v _ room .value _ hv.1 hfirst trivial
    · rw [run_compactOn v _ room .value _ hv.1 (by omega) trivial
        (endsNumber_compactMembers rest tail)]
      exact run_compactMembers_failed rest stack room ((k, v) :: done) k tail hv.2 (by omega)

end

end Reader

/-- **Which values are read back from their texts**: those that are not nested too deep. The text of
another one is refused.

**Proof sketch.** A value that is not too deep is read back by `readWhole_compact`. Otherwise the
reader has failed within the text, and stays so. -/
theorem readWhole_compact_eq_some_iff {v w : Json} (hv : v.WellFormed) :
    readWhole v.compact.toList = some w ↔ w = v ∧ v.depth ≤ maxDepth := by
  by_cases hd : v.depth ≤ maxDepth
  · rw [readWhole_compact hv hd, Option.some.injEq]
    exact ⟨fun h => ⟨h.symm, hd⟩, fun h => h.1.symm⟩
  · have hfailed : scan v.compact.toList = .failed := by
      have hrun : (Reader.init.run (compactOn v [])).mode = .failed :=
        Reader.run_compactOn_failed v [] maxDepth .value [] hv (not_le.1 hd) trivial
      rw [scan, compact, String.toList_ofList]
      exact Reader.run_failed hrun [' ']
    rw [readWhole, hfailed]
    refine ⟨fun h => ?_, fun h => absurd h.2 hd⟩
    cases h

end SchemaKit.Json
