import SchemaKit.Proofs.Json.RoundTrip

/-!
# What the reader delivers

The reader takes only literals that are well formed, and opens no container without room for it. Both
facts are one invariant of its state: what lies in an open container is a value that could have been
written there. So a value that was read can be written and read again.

## Main definitions

* `SchemaKit.Json.Fits` — values that may stand inside a number of containers.
* `SchemaKit.Json.Reader.Sound` — the invariant of the reader.

## Main results

* `SchemaKit.Json.fits_of_readWhole` — what is read is well formed and not too deep.
* `SchemaKit.Json.readWhole_indented` — a value in indented form reads back as itself.
* `SchemaKit.Json.compact_injective` — different values have different texts.
-/

namespace SchemaKit

namespace Json

/-! ## Items and members -/

/-- Items are well formed iff each of them is. -/
lemma wellFormedItems_iff {items : List Json} :
    WellFormed.wellFormedItems items ↔ ∀ v ∈ items, v.WellFormed := by
  induction items with
  | nil => simp [WellFormed.wellFormedItems]
  | cons v rest ih => simp [WellFormed.wellFormedItems, ih]

/-- Members are well formed iff each of their values is. -/
lemma wellFormedMembers_iff {members : List (String × Json)} :
    WellFormed.wellFormedMembers members ↔ ∀ m ∈ members, m.2.WellFormed := by
  induction members with
  | nil => simp [WellFormed.wellFormedMembers]
  | cons m rest ih => simp only [WellFormed.wellFormedMembers, ih, List.forall_mem_cons]

/-- The depth of items is bounded iff that of each item is. -/
lemma depthItems_le_iff {items : List Json} {n : Nat} :
    depth.depthItems items ≤ n ↔ ∀ v ∈ items, v.depth ≤ n := by
  induction items with
  | nil => simp [depth.depthItems]
  | cons v rest ih => simp [depth.depthItems, ih]

/-- The depth of members is bounded iff that of each value is. -/
lemma depthMembers_le_iff {members : List (String × Json)} {n : Nat} :
    depth.depthMembers members ≤ n ↔ ∀ m ∈ members, m.2.depth ≤ n := by
  induction members with
  | nil => simp [depth.depthMembers]
  | cons m rest ih => simp only [depth.depthMembers, max_le_iff, ih, List.forall_mem_cons]

/-- A well-formed value that needs no more than this room for its containers. -/
structure Fits (room : Nat) (v : Json) : Prop where
  wellFormed : v.WellFormed
  depth_le : v.depth ≤ room

/-- An array fits iff its items fit inside. -/
lemma fits_arr_iff {room : Nat} {items : List Json} :
    Fits (room + 1) (.arr items) ↔ ∀ v ∈ items, Fits room v := by
  constructor
  · rintro ⟨hwf, hd⟩ v hv
    exact ⟨wellFormedItems_iff.1 hwf v hv, depthItems_le_iff.1 (Nat.le_of_succ_le_succ hd) v hv⟩
  · intro h
    exact ⟨wellFormedItems_iff.2 fun v hv => (h v hv).wellFormed,
      Nat.succ_le_succ (depthItems_le_iff.2 fun v hv => (h v hv).depth_le)⟩

/-- An object fits iff its values fit inside. -/
lemma fits_obj_iff {room : Nat} {members : List (String × Json)} :
    Fits (room + 1) (.obj members) ↔ ∀ m ∈ members, Fits room m.2 := by
  constructor
  · rintro ⟨hwf, hd⟩ m hm
    exact ⟨wellFormedMembers_iff.1 hwf m hm,
      depthMembers_le_iff.1 (Nat.le_of_succ_le_succ hd) m hm⟩
  · intro h
    exact ⟨wellFormedMembers_iff.2 fun m hm => (h m hm).wellFormed,
      Nat.succ_le_succ (depthMembers_le_iff.2 fun m hm => (h m hm).depth_le)⟩

/-! ## Literals -/

/-- One more digit in front of reversed digits. -/
lemma isDigits_reverse_cons {c : Char} {ds : List Char} (hc : isDigit c = true)
    (hds : ∀ d ∈ ds, isDigit d = true) : IsDigits (c :: ds).reverse := by
  refine ⟨by simp, fun d hd => ?_⟩
  rcases List.mem_cons.1 (List.mem_reverse.1 hd) with rfl | hd
  · exact hc
  · exact hds d hd

/-- Digits that may stand before the point are digits. -/
lemma IsWhole.isDigit {ds : List Char} (h : IsWhole ds) : ∀ c ∈ ds, isDigit c = true := by
  rcases h with rfl | ⟨d, rest, -, -, hall⟩
  · intro c hc
    rw [List.mem_singleton.1 hc]
    rfl
  · exact hall

/-- One digit may stand before the point. -/
lemma isWhole_singleton {c : Char} (hc : isDigit c = true) : IsWhole [c] := by
  by_cases h0 : c = '0'
  · exact .inl (by rw [h0])
  · exact .inr ⟨c, [], rfl, h0, by simpa using hc⟩

/-- Behind anything but a single zero, one more digit may stand before the point.

**Proof sketch.** The first digit stays the same and is not a zero, since a zero stands alone. -/
lemma IsWhole.reverse_cons {c : Char} {ds : List Char} (h : IsWhole ds.reverse) (h0 : ds ≠ ['0'])
    (hc : Json.isDigit c = true) : IsWhole (c :: ds).reverse := by
  have hall := h.isDigit
  rcases h with hzero | ⟨d, rest, hds, hd, -⟩
  · exact absurd (List.reverse_eq_iff.1 hzero) h0
  · refine .inr ⟨d, rest ++ [c], by rw [List.reverse_cons, hds, List.cons_append], hd, ?_⟩
    rw [List.reverse_cons]
    intro x hx
    rcases List.mem_append.1 hx with hx | hx
    · exact hall x hx
    · rwa [List.mem_singleton.1 hx]

namespace NumeralState

/-- The parts read so far are parts of a literal. -/
def Sound : NumeralState → Prop
  | .minus => True
  | .whole _ ds => IsWhole ds.reverse
  | .point _ w => IsWhole w
  | .fraction _ w ds => IsWhole w ∧ IsDigits ds.reverse
  | .mark _ w f _ | .sign _ w f _ _ => IsWhole w ∧ ∀ ds, f = some ds → IsDigits ds
  | .exponent _ w f _ _ ds =>
    (IsWhole w ∧ ∀ ds, f = some ds → IsDigits ds) ∧ IsDigits ds.reverse

/-- One more digit behind digits. -/
lemma isDigits_more {c : Char} {ds : List Char} (h : IsDigits ds.reverse)
    (hc : isDigit c = true) : IsDigits (c :: ds).reverse :=
  isDigits_reverse_cons hc fun d hd => h.2 d (List.mem_reverse.2 hd)

/-- A character that continues a literal continues its parts.

**Proof sketch.** By the part of the literal the state is in. The digit, the point or the mark that
is taken extends that part or starts the next one. -/
lemma Sound.advance? {s s' : NumeralState} (h : s.Sound) {c : Char}
    (hs : s.advance? c = some s') : s'.Sound := by
  have hfirst : isDigit c = true → IsDigits [c].reverse :=
    fun hc => isDigits_reverse_cons hc (by simp)
  cases s with
  | minus =>
    simp only [NumeralState.advance?] at hs
    split at hs <;> cases hs
    exact isWhole_singleton ‹_›
  | whole neg ds =>
    simp only [NumeralState.advance?] at hs
    split at hs
    · split at hs <;> cases hs
      exact IsWhole.reverse_cons h ‹_› ‹_›
    · split at hs
      · cases hs
        exact h
      · split at hs <;> cases hs
        exact ⟨h, by simp⟩
  | point neg w =>
    simp only [NumeralState.advance?] at hs
    split at hs <;> cases hs
    exact ⟨h, hfirst ‹_›⟩
  | fraction neg w ds =>
    simp only [NumeralState.advance?] at hs
    split at hs
    · cases hs
      exact ⟨h.1, isDigits_more h.2 ‹_›⟩
    · split at hs <;> cases hs
      refine ⟨h.1, ?_⟩
      rintro _ ⟨⟩
      exact h.2
  | mark neg w f cap =>
    simp only [NumeralState.advance?] at hs
    split at hs
    · cases hs
      exact ⟨h, hfirst ‹_›⟩
    · split at hs <;> cases hs
      exact h
  | sign neg w f cap m =>
    simp only [NumeralState.advance?] at hs
    split at hs <;> cases hs
    exact ⟨h, hfirst ‹_›⟩
  | exponent neg w f cap sgn ds =>
    simp only [NumeralState.advance?] at hs
    split at hs <;> cases hs
    exact ⟨h.1, isDigits_more h.2 ‹_›⟩

/-- A literal that may end is well formed.

**Proof sketch.** The states in which a literal may end are the digits before the point, behind it
and of the exponent, and each of them keeps what is needed. -/
lemma Sound.complete? {s : NumeralState} (h : s.Sound) {n : Numeral}
    (hs : s.complete? = some n) : n.WellFormed := by
  cases s with
  | whole neg ds =>
    cases hs
    exact ⟨h, by simp, by simp⟩
  | fraction neg w ds =>
    cases hs
    refine ⟨h.1, ?_, by simp⟩
    rintro _ ⟨⟩
    exact h.2
  | exponent neg w f cap sgn ds =>
    cases hs
    refine ⟨h.1.1, h.1.2, ?_⟩
    rintro _ ⟨⟩
    exact h.2
  | minus | point | mark | sign => cases hs

end NumeralState

/-! ## The invariant of the reader -/

/-- What an open container holds fits into the room that is left inside. -/
def Frame.Sound (room : Nat) : Frame → Prop
  | .items done => ∀ v ∈ done, Fits room v
  | .members done _ => ∀ m ∈ done, Fits room m.2

/-- Every open container took one from the room, the outermost one from the whole. -/
def Frame.stackSound : (room : Nat) → List Frame → Prop
  | room, [] => room = maxDepth
  | room, f :: rest => f.Sound room ∧ stackSound (room + 1) rest

/-- The value that a mode carries is a sound one. -/
def Mode.Sound : Mode → Prop
  | .numeral s => s.Sound
  | .word _ v => Fits 0 v
  | .finished v _ => Fits maxDepth v
  | _ => True

namespace Reader

/-- All values that the state carries fit where they are. -/
structure Sound (r : Reader) : Prop where
  stack : Frame.stackSound r.room r.stack
  mode : r.mode.Sound

variable {r : Reader}

/-- A failed reader carries no value besides those of its containers. -/
lemma Sound.fail (h : r.Sound) : r.fail.Sound := ⟨h.stack, trivial⟩

/-- A complete value goes to where it fits.

**Proof sketch.** By the innermost container: the value is the document, an item or the value of a
member, and in each case it fits. -/
lemma sound_deliver (h : Frame.stackSound r.room r.stack) {v : Json} (hv : Fits r.room v) :
    (r.deliver v).Sound := by
  obtain ⟨stack, room, mode⟩ := r
  cases stack with
  | nil =>
    obtain rfl : room = maxDepth := h
    exact ⟨rfl, hv⟩
  | cons f rest =>
    cases f with
    | items done => exact ⟨⟨List.forall_mem_cons.2 ⟨hv, h.1⟩, h.2⟩, trivial⟩
    | members done name => exact ⟨⟨List.forall_mem_cons.2 ⟨hv, h.1⟩, h.2⟩, trivial⟩

/-- A value without containers fits everywhere. -/
lemma Sound.deliver (h : r.Sound) {v : Json} (hv : Fits 0 v) : (r.deliver v).Sound :=
  sound_deliver h.stack ⟨hv.wellFormed, hv.depth_le.trans (Nat.zero_le _)⟩

/-- Closing an array. -/
lemma Sound.closeArray (h : r.Sound) : r.closeArray.Sound := by
  obtain ⟨_ | ⟨done | ⟨done, name⟩, rest⟩, room, mode⟩ := r
  · exact h.fail
  · refine sound_deliver h.stack.2 (fits_arr_iff.2 fun v hv => ?_)
    exact h.stack.1 v (List.mem_reverse.1 hv)
  · exact h.fail

/-- Closing an object. -/
lemma Sound.closeObject (h : r.Sound) : r.closeObject.Sound := by
  obtain ⟨_ | ⟨done | ⟨done, name⟩, rest⟩, room, mode⟩ := r
  · exact h.fail
  · exact h.fail
  · refine sound_deliver h.stack.2 (fits_obj_iff.2 fun m hm => ?_)
    exact h.stack.1 m (List.mem_reverse.1 hm)

/-- Opening a container takes one from the room. -/
lemma Sound.openFrame (h : r.Sound) {f : Frame} {m : Mode} (hf : ∀ room, f.Sound room)
    (hm : m.Sound) : (r.openFrame f m).Sound := by
  obtain ⟨stack, _ | room, mode⟩ := r
  · exact h.fail
  · exact ⟨⟨hf room, h.stack⟩, hm⟩

/-- The first character of a value.

**Proof sketch.** By the first character: a container is opened, a text, a number or a word is
started, or the reader fails. -/
lemma Sound.startValue (h : r.Sound) (c : Char) : (r.startValue c).Sound := by
  have hword : ∀ {v : Json}, v.depth = 0 → v.WellFormed → Fits 0 v := fun hd hv => ⟨hv, hd.le⟩
  unfold Reader.startValue
  split_ifs with _ _ _ _ hdigit
  · exact h.openFrame (fun _ => nofun) trivial
  · exact h.openFrame (fun _ => nofun) trivial
  · exact ⟨h.stack, trivial⟩
  · exact ⟨h.stack, trivial⟩
  · exact ⟨h.stack, isWhole_singleton hdigit⟩
  · exact ⟨h.stack, hword rfl trivial⟩
  · exact ⟨h.stack, hword rfl trivial⟩
  · exact ⟨h.stack, hword rfl trivial⟩
  · exact h.fail

/-- A comma or the end of a container.

**Proof sketch.** By the innermost container and the character: a comma waits for the next item or
name, the end delivers the container. -/
lemma Sound.stepSeparator (h : r.Sound) (c : Char) : (r.stepSeparator c).Sound := by
  unfold Reader.stepSeparator
  split
  · split_ifs
    · exact ⟨h.stack, trivial⟩
    · exact h.closeArray
    · exact h.fail
  · split_ifs
    · exact ⟨h.stack, trivial⟩
    · exact h.closeObject
    · exact h.fail
  · exact h.fail

/-- A string is complete. -/
lemma Sound.endString (h : r.Sound) (isName : Bool) (s : String) : (r.endString isName s).Sound := by
  cases isName with
  | false => exact h.deliver ⟨trivial, le_rfl⟩
  | true =>
    obtain ⟨_ | ⟨done | ⟨done, name⟩, rest⟩, room, mode⟩ := r
    · exact h.fail
    · exact h.fail
    · exact ⟨h.stack, trivial⟩

/-- A character within a string.

**Proof sketch.** By the state of the escape. The end of the text delivers it or names a member, and
everything else stays inside the text. -/
lemma Sound.stepString (h : r.Sound) (isName : Bool) (s : StringState) (e : Escape) (c : Char) :
    (r.stepString isName s e c).Sound := by
  unfold Reader.stepString
  split
  · split_ifs
    · exact h.endString isName s.text
    · exact ⟨h.stack, trivial⟩
    · exact h.fail
    · exact ⟨h.stack, trivial⟩
  · split_ifs
    · exact ⟨h.stack, trivial⟩
    · split
      · exact ⟨h.stack, trivial⟩
      · exact h.fail
  · split
    · exact h.fail
    · split_ifs
      · exact ⟨h.stack, trivial⟩
      · exact ⟨h.stack, trivial⟩

/-- A character between tokens.

**Proof sketch.** By what the reader waits for, with one lemma for each of the steps behind it. -/
lemma Sound.stepBetween (h : r.Sound) (c : Char) : (r.stepBetween c).Sound := by
  unfold Reader.stepBetween
  split
  · next v alone hmode =>
    have hv : Mode.Sound (.finished v alone) := hmode ▸ h.mode
    exact ⟨h.stack, hv⟩
  · exact h
  · by_cases hblank : isBlank c
    · rwa [if_pos hblank]
    · rw [if_neg hblank]
      split
      · exact h.startValue c
      · split_ifs
        · exact h.closeArray
        · exact h.startValue c
      · split_ifs
        · exact h.closeObject
        · exact ⟨h.stack, trivial⟩
        · exact h.fail
      · split_ifs
        · exact ⟨h.stack, trivial⟩
        · exact h.fail
      · split_ifs
        · exact ⟨h.stack, trivial⟩
        · exact h.fail
      · exact h.stepSeparator c
      · exact h.fail

/-- **One character keeps the invariant.**

**Proof sketch.** By the mode of the reader. A value that is complete at this character is
delivered, and the character is then read between values. -/
lemma Sound.step (h : r.Sound) (c : Char) : (r.step c).Sound := by
  unfold Reader.step
  split
  · exact h.stepString _ _ _ c
  · next s hmode =>
    have hs : Mode.Sound (.numeral s) := hmode ▸ h.mode
    split
    · next s' hs' => exact ⟨h.stack, hs.advance? hs'⟩
    · split
      · next n hn =>
        have hfits : Fits 0 (.num n) := ⟨hs.complete? hn, le_rfl⟩
        exact (h.deliver hfits).stepBetween c
      · exact h.fail
  · next v hmode =>
    have hv : Mode.Sound (.word [] v) := hmode ▸ h.mode
    exact (h.deliver hv).stepBetween c
  · next d v hmode =>
    have hv : Mode.Sound (.word [d] v) := hmode ▸ h.mode
    split_ifs
    · exact h.deliver hv
    · exact h.fail
  · next d rest v _ hmode =>
    have hv : Mode.Sound (.word (d :: rest) v) := hmode ▸ h.mode
    split_ifs
    · exact ⟨h.stack, hv⟩
    · exact h.fail
  · exact h.stepBetween c

/-- **A text keeps the invariant.** -/
lemma Sound.run (h : r.Sound) (cs : List Char) : (r.run cs).Sound := by
  induction cs generalizing r with
  | nil => exact h
  | cons c cs ih => exact ih (h.step c)

end Reader

/-! ## Whole texts -/

/-- **What is read is well formed and not too deep.**

**Proof sketch.** Every character keeps the invariant, and a reader that has finished holds a value
that fits. -/
theorem fits_of_readWhole {cs : List Char} {v : Json} (h : readWhole cs = some v) :
    Fits maxDepth v := by
  have hinit : Reader.init.Sound := ⟨rfl, trivial⟩
  have hmode : (scan cs).Sound := ((hinit.run cs).step ' ').mode
  unfold readWhole at h
  split at h
  · next w hw =>
    cases h
    rw [hw] at hmode
    exact hmode
  · cases h

/-- A value that is the whole of a text stands at its start. -/
lemma readFirst_of_readWhole {cs : List Char} {v : Json} (h : readWhole cs = some v) :
    readFirst cs = some v := by
  unfold readWhole at h
  split at h
  · next hscan =>
    cases h
    rw [readFirst, hscan]
  · cases h

/-- **A value in indented form reads back as itself.** -/
theorem readWhole_indented {v : Json} (h : Fits maxDepth v) :
    readWhole v.indented.toList = some v := by
  rw [readWhole, scan_indented h.wellFormed h.depth_le]

/-- **Different values have different texts.** A reader with room for both of them tells which one
was written.

**Proof sketch.** A reader with room for both values finishes with `v` behind the text of `v`, and
with `w` behind that of `w`, by `run_compactOn`. The text is the same, so the values are. -/
theorem compact_injective {v w : Json} (hv : v.WellFormed) (hw : w.WellFormed)
    (h : v.compact = w.compact) : v = w := by
  have hchars : compactOn v [' '] = compactOn w [' '] := by
    have htext : compactOn v [] = compactOn w [] := String.ofList_injective h
    calc compactOn v [' '] = compactOn v [] ++ [' '] := compactOn_append v [] [' ']
      _ = compactOn w [] ++ [' '] := by rw [htext]
      _ = compactOn w [' '] := (compactOn_append w [] [' ']).symm
  have hends : EndsNumber [' '] := endsNumber_cons (by decide)
  have hread := congrArg (Reader.mk [] (max v.depth w.depth) .value).run hchars
  rw [Reader.run_compactOn v [] _ .value [' '] hv (le_max_left _ _) trivial hends,
    Reader.run_compactOn w [] _ .value [' '] hw (le_max_right _ _) trivial hends] at hread
  have hmode : Mode.finished v true = Mode.finished w true := congrArg Reader.mode hread
  exact (Mode.finished.inj hmode).1

end Json

end SchemaKit
