import SchemaKit.Proofs.Json.Consumed
import SchemaKit.Proofs.Json.Depth

/-!
# The value at the start of a text

A caller that asks for the first value of a text gets it as soon as it is complete, whatever stands
behind it. The text then falls into two parts: a document of the value, and a rest that was not
looked at. As a whole the text is a document exactly if the rest is blank.

## Main definitions

* `SchemaKit.Json.Reader.widened` — a reader with room for more containers.

## Main results

* `SchemaKit.Json.Reader.run_widened` — more room changes nothing unless the reader fails.
* `SchemaKit.Json.Reader.exists_of_run_finished` — where the value ends.
* `SchemaKit.Json.exists_of_readFirst` — the two parts of a text whose first value is read.
* `SchemaKit.Json.readFirst_append` — the rest of a text is not looked at.
-/

namespace SchemaKit.Json

namespace Reader

variable {r : Reader}

/-! ## More room -/

/-- A reader with room for more containers. -/
def widened (r : Reader) (k : Nat) : Reader := { r with room := r.room + k }

/-- More room does not change what is being read. -/
@[simp] lemma widened_mode (r : Reader) (k : Nat) : (r.widened k).mode = r.mode := rfl

/-- More room does not change which containers are open. -/
@[simp] lemma widened_stack (r : Reader) (k : Nat) : (r.widened k).stack = r.stack := rfl

/-- A value is handed over in the same way with more room. -/
lemma deliver_widened (r : Reader) (v : Json) (k : Nat) :
    (r.widened k).deliver v = (r.deliver v).widened k := by
  obtain ⟨_ | ⟨_ | _, _⟩, room, mode⟩ := r <;> rfl

/-- An array is closed in the same way with more room. -/
lemma closeArray_widened (r : Reader) (k : Nat) :
    (r.widened k).closeArray = r.closeArray.widened k := by
  obtain ⟨_ | ⟨done | _, rest⟩, room, mode⟩ := r
  · rfl
  · have hroom : room + k + 1 = room + 1 + k := by omega
    simp only [closeArray, widened, hroom]
    exact deliver_widened ⟨rest, room + 1, .value⟩ _ k
  · rfl

/-- An object is closed in the same way with more room. -/
lemma closeObject_widened (r : Reader) (k : Nat) :
    (r.widened k).closeObject = r.closeObject.widened k := by
  obtain ⟨_ | ⟨_ | done, rest⟩, room, mode⟩ := r
  · rfl
  · rfl
  · have hroom : room + k + 1 = room + 1 + k := by omega
    simp only [closeObject, widened, hroom]
    exact deliver_widened ⟨rest, room + 1, .value⟩ _ k

/-- Only opening a container asks for room. -/
lemma openFrame_widened {f : Frame} {m : Mode} (h : (r.openFrame f m).mode ≠ .failed) (k : Nat) :
    (r.widened k).openFrame f m = (r.openFrame f m).widened k := by
  obtain ⟨stack, _ | room, mode⟩ := r
  · exact absurd rfl h
  · have hroom : room + 1 + k = room + k + 1 := by omega
    simp only [openFrame, widened, hroom]

/-- A value that can be started is started in the same way with more room.

**Proof sketch.** Only an object and an array need room, and both are opened as before by
`openFrame_widened`. -/
lemma startValue_widened {c : Char} (h : (r.startValue c).mode ≠ .failed) (k : Nat) :
    (r.widened k).startValue c = (r.startValue c).widened k := by
  unfold startValue at h ⊢
  by_cases hobject : c = '\x7b'
  · simp only [hobject, if_true] at h ⊢
    exact openFrame_widened h k
  by_cases harray : c = '['
  · simp only [harray, if_true] at h ⊢
    exact openFrame_widened h k
  simp only [hobject, harray, if_false, apply_ite (widened · k)]
  rfl

/-- What separates values is read in the same way with more room.

**Proof sketch.** The stack is the same, and so the same branch is taken. Closing a container is
`closeArray_widened` or `closeObject_widened`. -/
lemma stepSeparator_widened (r : Reader) (c : Char) (k : Nat) :
    (r.widened k).stepSeparator c = (r.stepSeparator c).widened k := by
  unfold stepSeparator
  rw [widened_stack]
  split
  · split_ifs
    · rfl
    · exact closeArray_widened r k
    · rfl
  · split_ifs
    · rfl
    · exact closeObject_widened r k
    · rfl
  · rfl

/-- A text is read in the same way with more room.

**Proof sketch.** By the state of the escape. The only branch that looks at the stack is the end of
the text, which delivers a value or names a member. -/
lemma stepString_widened (r : Reader) (isName : Bool) (s : StringState) (e : Escape) (c : Char)
    (k : Nat) : (r.widened k).stepString isName s e c = (r.stepString isName s e c).widened k := by
  have hend : (r.widened k).endString isName s.text = (r.endString isName s.text).widened k := by
    cases isName with
    | false => exact deliver_widened r _ k
    | true => obtain ⟨_ | ⟨_ | _, _⟩, room, mode⟩ := r <;> rfl
  unfold stepString
  cases e with
  | none =>
    simp only
    split_ifs
    · exact hend
    all_goals rfl
  | backslash =>
    simp only
    split_ifs
    · rfl
    · split <;> rfl
  | digits missing v =>
    simp only
    split
    · rfl
    · split_ifs <;> rfl

/-- Between values a character that can be read is read in the same way with more room.

**Proof sketch.** By what the reader waits for. Opening a container is the only step that needs
room, and a reader that does not fail had it. -/
lemma stepBetween_widened {c : Char} (h : (r.stepBetween c).mode ≠ .failed) (k : Nat) :
    (r.widened k).stepBetween c = (r.stepBetween c).widened k := by
  cases hm : r.mode with
  | finished | failed => simp only [stepBetween, widened_mode, hm] <;> rfl
  | value =>
    simp only [stepBetween, widened_mode, hm] at h ⊢
    split_ifs at h ⊢
    · rfl
    · exact startValue_widened h k
  | firstItem =>
    simp only [stepBetween, widened_mode, hm] at h ⊢
    split_ifs at h ⊢
    · rfl
    · exact closeArray_widened r k
    · exact startValue_widened h k
  | firstName =>
    simp only [stepBetween, widened_mode, hm] at h ⊢
    split_ifs at h ⊢
    · rfl
    · exact closeObject_widened r k
    · rfl
    · rfl
  | separator =>
    simp only [stepBetween, widened_mode, hm]
    split_ifs
    · rfl
    · exact stepSeparator_widened r c k
  | name | colon | string | numeral | word =>
    simp only [stepBetween, widened_mode, hm]
    split_ifs <;> rfl

/-- **One character has the same effect with more room**, unless the reader fails.

**Proof sketch.** By the mode of the reader. Inside a number and a word, a character that ends the
value is read again behind it, so those cases come down to `stepBetween_widened` of the delivered
value. -/
lemma step_widened {c : Char} (h : (r.step c).mode ≠ .failed) (k : Nat) :
    (r.widened k).step c = (r.step c).widened k := by
  have hdelivered (v : Json) (h : ((r.deliver v).stepBetween c).mode ≠ .failed) :
      ((r.widened k).deliver v).stepBetween c = ((r.deliver v).stepBetween c).widened k := by
    rw [deliver_widened]
    exact stepBetween_widened h k
  cases hm : r.mode with
  | string isName s e =>
    simp only [step, widened_mode, hm]
    exact stepString_widened r isName s e c k
  | numeral s =>
    simp only [step, widened_mode, hm] at h ⊢
    cases hs : s.advance? c with
    | some s' => rfl
    | none =>
      cases hn : s.complete? with
      | some n =>
        simp only [hs, hn] at h
        exact hdelivered _ h
      | none => rfl
  | word rest v =>
    rcases rest with _ | ⟨d, _ | ⟨d', rest⟩⟩ <;> simp only [step, widened_mode, hm] at h ⊢
    · exact hdelivered v h
    · split_ifs
      · exact deliver_widened r v k
      · rfl
    · split_ifs <;> rfl
  | value | firstItem | firstName | name | colon | separator | finished | failed =>
    simp only [step, widened_mode, hm] at h ⊢
    exact stepBetween_widened h k

/-- **More room changes nothing unless the reader fails.** -/
theorem run_widened {cs : List Char} (h : (r.run cs).mode ≠ .failed) (k : Nat) :
    (r.widened k).run cs = (r.run cs).widened k := by
  induction cs generalizing r with
  | nil => rfl
  | cons c cs ih =>
    have hstep : (r.step c).mode ≠ .failed := fun hfailed => h (run_failed hfailed cs)
    rw [run_cons, run_cons, step_widened hstep]
    exact ih h

/-! ## Where the value ends -/

/-- Characters behind a complete value only decide whether it stands alone. -/
lemma run_finished {v : Json} {alone : Bool} (h : r.mode = .finished v alone) (cs : List Char) :
    (r.run cs).mode = .finished v (alone && cs.all isBlank) := by
  induction cs generalizing r alone with
  | nil => rw [run_nil, h, List.all_nil, Bool.and_true]
  | cons c cs ih =>
    have hstep : (r.step c).mode = .finished v (alone && isBlank c) := by
      simp only [step, stepBetween, h]
    rw [run_cons, ih hstep, List.all_cons, Bool.and_assoc]

/-- The reader has not just met a character behind a complete value. -/
def Calm (r : Reader) : Prop := ∀ v, r.mode ≠ .finished v false

/-- A reader that has failed is calm. -/
lemma calm_fail : r.fail.Calm := fun _ => nofun

/-- A reader that has just got a value is calm, even if the value is complete. -/
lemma calm_deliver (r : Reader) (v : Json) : (r.deliver v).Calm := by
  obtain ⟨_ | ⟨_ | _, _⟩, room, mode⟩ := r <;> exact fun _ => nofun

/-- A reader that has just closed an array is calm. -/
lemma calm_closeArray (r : Reader) : r.closeArray.Calm := by
  unfold closeArray
  split
  · exact calm_deliver _ _
  · exact calm_fail

/-- A reader that has just closed an object is calm. -/
lemma calm_closeObject (r : Reader) : r.closeObject.Calm := by
  unfold closeObject
  split
  · exact calm_deliver _ _
  · exact calm_fail

/-- A reader that starts a value is calm.

**Proof sketch.** Opening a container waits for its first item or name, and every other start leads
into a text, a number or a word. -/
lemma calm_startValue (r : Reader) (c : Char) : (r.startValue c).Calm := by
  have hopen {f : Frame} {m : Mode} (hm : ∀ v, m ≠ .finished v false) : (r.openFrame f m).Calm := by
    unfold openFrame
    split
    · exact calm_fail
    · exact hm
  unfold startValue
  split
  · exact hopen fun _ => nofun
  split
  · exact hopen fun _ => nofun
  repeat' split
  all_goals exact fun _ => nofun

/-- A reader behind a separator is calm.

**Proof sketch.** A comma leads to the next item or name. The end of a container delivers it, and
delivering is calm. -/
lemma calm_stepSeparator (r : Reader) (c : Char) : (r.stepSeparator c).Calm := by
  unfold stepSeparator
  split
  · split_ifs
    · exact fun _ => nofun
    · exact calm_closeArray r
    · exact calm_fail
  · split_ifs
    · exact fun _ => nofun
    · exact calm_closeObject r
    · exact calm_fail
  · exact calm_fail

/-- A reader inside of a text, or at its end, is calm.

**Proof sketch.** Within the text the reader stays in it. Its end names a member or delivers a
value, and both are calm. -/
lemma calm_stepString (r : Reader) (isName : Bool) (s : StringState) (e : Escape) (c : Char) :
    (r.stepString isName s e c).Calm := by
  have hend (t : String) : (r.endString isName t).Calm := by
    unfold endString
    split_ifs
    · split <;> exact fun _ => nofun
    · exact calm_deliver r _
  unfold stepString
  split
  · split_ifs
    · exact hend _
    all_goals exact fun _ => nofun
  · split_ifs
    · exact fun _ => nofun
    · split <;> exact fun _ => nofun
  · split
    · exact calm_fail
    · split_ifs <;> exact fun _ => nofun

/-- Only behind a complete value a character is met that is no part of it.

**Proof sketch.** By what the reader waits for, with one lemma for each of the steps behind it. -/
lemma calm_stepBetween (h : ∀ v alone, r.mode ≠ .finished v alone) (c : Char) :
    (r.stepBetween c).Calm := by
  have hcalm : r.Calm := fun v => h v false
  cases hm : r.mode with
  | finished v alone => exact absurd hm (h v alone)
  | failed =>
    simp only [stepBetween, hm]
    exact hcalm
  | value =>
    simp only [stepBetween, hm]
    split_ifs
    · exact hcalm
    · exact calm_startValue r c
  | firstItem =>
    simp only [stepBetween, hm]
    split_ifs
    · exact hcalm
    · exact calm_closeArray r
    · exact calm_startValue r c
  | firstName =>
    simp only [stepBetween, hm]
    split_ifs
    · exact hcalm
    · exact calm_closeObject r
    all_goals (intro v hv; cases hv)
  | separator =>
    simp only [stepBetween, hm]
    split_ifs
    · exact hcalm
    · exact calm_stepSeparator r c
  | name | colon | string | numeral | word =>
    simp only [stepBetween, hm]
    split_ifs
    · exact hcalm
    all_goals (intro v hv; cases hv)

/-- A value that is delivered in front of a character is complete only if no container is open. If
the character is no blank, the value does not stand alone.

**Proof sketch.** If a container is open, then the reader waits for a separator behind the value,
and from there it is calm. -/
lemma deliver_stepBetween {v w : Json} {c : Char}
    (h : ((r.deliver v).stepBetween c).mode = .finished w false) :
    r.stack = [] ∧ v = w ∧ isBlank c = false := by
  obtain ⟨stack, room, mode⟩ := r
  cases stack with
  | nil =>
    simp only [deliver, stepBetween, Bool.true_and, Mode.finished.injEq] at h
    exact ⟨rfl, h⟩
  | cons f rest =>
    refine absurd h (calm_stepBetween (fun u alone => ?_) c w)
    cases f <;> rintro ⟨⟩

/-- **The character behind a number** that ends it is no part of the document of the number.

**Proof sketch.** By `calm_stepBetween` and its kind, only a number or a complete word can meet such
a character. What has been read of it is then a complete literal or word, and what stands before it
is blank. -/
lemma isDocument_of_step {cs : List Char} {c : Char} {v : Json} (hconsumed : r.Consumed cs)
    (hsound : r.Sound) (h : ∀ w alone, r.mode ≠ .finished w alone)
    (hstep : (r.step c).mode = .finished v false) : IsDocument v cs ∧ isBlank c = false := by
  obtain ⟨stack, room, mode⟩ := r
  cases mode with
  | string isName s e => exact absurd hstep (calm_stepString _ isName s e c v)
  | numeral s =>
    simp only [step] at hstep
    split at hstep
    · cases hstep
    · split at hstep
      · next n hn =>
        obtain ⟨rfl, rfl, hc⟩ := deliver_stepBetween hstep
        obtain ⟨q, rfl, hq⟩ := hconsumed
        have hspells : Spells (.num n) s.chars :=
          ⟨NumeralState.Sound.complete? hsound.mode hn, (NumeralState.chars_complete? hn).symm⟩
        exact ⟨padded_of_blanks hq hspells, hc⟩
      · cases hstep
  | word rest w =>
    rcases rest with _ | ⟨d, _ | ⟨d', rest⟩⟩
    · obtain ⟨rfl, rfl, hc⟩ := deliver_stepBetween hstep
      obtain ⟨q, u, rfl, hu, hq⟩ := hconsumed
      rw [List.append_nil] at hu
      exact ⟨padded_of_blanks hq hu, hc⟩
    · simp only [step] at hstep
      split_ifs at hstep
      · exact absurd hstep (calm_deliver _ _ v)
      · cases hstep
    · simp only [step] at hstep
      split_ifs at hstep
      cases hstep
  | value | firstItem | firstName | name | colon | separator | failed | finished =>
    exact absurd hstep (calm_stepBetween h c v)

/-- **Where the value ends.** If a reader that is not done becomes so, then the text that it has
consumed and the first part of what follows are a document of the value. The value stands alone iff
the rest is blank.

**Proof sketch.** Induction on the text, up to the character at which the value becomes complete.
Most values are complete with their last character. A number ends in front of a character that does
not continue it; if that is no blank, it belongs to the rest. -/
theorem exists_of_run_finished {cs ds : List Char} {v : Json} {alone : Bool}
    (hconsumed : r.Consumed cs) (hsound : r.Sound) (hopen : ∀ w b, r.mode ≠ .finished w b)
    (h : (r.run ds).mode = .finished v alone) :
    ∃ front rest, ds = front ++ rest ∧ IsDocument v (cs ++ front) ∧
      (alone = true ↔ Blanks rest) := by
  induction ds generalizing r cs with
  | nil => exact absurd h (hopen v alone)
  | cons c ds ih =>
    rw [run_cons] at h
    have hnext := hconsumed.step hsound c
    by_cases hdone : ∃ w b, (r.step c).mode = .finished w b
    · obtain ⟨w, b, hw⟩ := hdone
      rw [run_finished hw, Mode.finished.injEq] at h
      obtain ⟨rfl, rfl⟩ := h
      cases b with
      | true =>
        rw [Consumed, hw] at hnext
        exact ⟨[c], ds, rfl, hnext rfl, by rw [Bool.true_and, List.all_eq_true, Blanks]⟩
      | false =>
        obtain ⟨hdocument, hc⟩ := isDocument_of_step hconsumed hsound hopen hw
        refine ⟨[], c :: ds, rfl, by rwa [List.append_nil], ?_⟩
        simp [Blanks, hc]
    · simp only [not_exists] at hdone
      obtain ⟨front, rest, rfl, hdocument, hrest⟩ := ih hnext (hsound.step c) hdone h
      exact ⟨c :: front, rest, rfl, by simpa using hdocument, hrest⟩

end Reader

/-! ## Whole texts -/

/-- More room for containers does not change what a text is read as.

**Proof sketch.** A document of `w` is read as `w` by a reader with room for it. The reader that
reads `v` does the same with that much more room, by `run_widened`, so both ended in the same mode. -/
lemma eq_of_isDocument {text : List Char} {v w : Json} {alone : Bool}
    (h : scan text = .finished v alone) (hw : IsDocument w text) : v = w ∧ alone = true := by
  have hrun : ((Reader.init.widened w.depth).run (text ++ [' '])).mode = .finished w true := by
    have hdepth : w.depth ≤ maxDepth + w.depth := Nat.le_add_left _ _
    have hpadded : (Reader.mk [] (maxDepth + w.depth) .value).run (text ++ [' ']) = _ :=
      (Reader.run_spells w).run_padded hw hdepth (m := .value) trivial
        (endsNumber_cons (by decide))
    exact congrArg Reader.mode hpadded
  have hscan : (Reader.init.run (text ++ [' '])).mode = .finished v alone := by
    rw [Reader.run_append]
    exact h
  rw [Reader.run_widened (by rw [hscan]; exact nofun), Reader.widened_mode, hscan,
    Mode.finished.injEq] at hrun
  exact hrun

/-- **The two parts of a text whose first value is read**: a document of the value, and a rest. The
text as a whole is a document iff the rest is blank, and then it is read as the same value.

**Proof sketch.** The run over the text and a blank behind it ends with `v`. Then
`exists_of_run_finished` divides what was read into a document and a rest, and the blank behind the
text belongs to the rest, or to the document where the rest is empty. That the whole is a document
only with a blank rest is `eq_of_isDocument`. -/
theorem exists_of_readFirst {text : List Char} {v : Json} (h : readFirst text = some v) :
    ∃ front rest, text = front ++ rest ∧ IsDocument v front ∧ v.depth ≤ maxDepth ∧
      ((∃ w, IsDocument w text) ↔ Blanks rest) ∧ (readWhole text = some v ↔ Blanks rest) := by
  obtain ⟨alone, hscan⟩ : ∃ alone, scan text = .finished v alone := by
    unfold readFirst at h
    split at h
    · next alone hscan =>
      cases h
      exact ⟨alone, hscan⟩
    · cases h
  have hinit : Reader.init.Sound := ⟨rfl, trivial⟩
  have hdepth : v.depth ≤ maxDepth := by
    have hmode : (scan text).Sound := ((hinit.run text).step ' ').mode
    rw [hscan] at hmode
    exact hmode.depth_le
  have hrun : (Reader.init.run (text ++ [' '])).mode = .finished v alone := by
    rw [Reader.run_append]
    exact hscan
  have hconsumed : Reader.init.Consumed [] := blanks_nil
  obtain ⟨front, rest, hsplit, hdocument, hrest⟩ :=
    Reader.exists_of_run_finished hconsumed hinit (fun _ _ => nofun) hrun
  -- the blank behind the text belongs to the rest
  obtain ⟨front, rest, rfl, hdocument, hrest⟩ : ∃ front rest, text = front ++ rest ∧
      IsDocument v front ∧ (alone = true ↔ Blanks rest) := by
    rcases List.eq_nil_or_concat' rest with rfl | ⟨rest, c, rfl⟩
    · rw [List.append_nil] at hsplit
      subst hsplit
      exact ⟨text, [], by rw [List.append_nil], isDocument_of_append_blank hdocument, hrest⟩
    · rw [← List.append_assoc] at hsplit
      obtain ⟨rfl, hc⟩ := List.append_inj' hsplit rfl
      obtain rfl : ' ' = c := by simpa using hc
      have hblank : isBlank ' ' = true := by decide
      exact ⟨front, rest, rfl, hdocument, hrest.trans (by simp [Blanks, or_imp, forall_and, hblank])⟩
  have hblanks {w : Json} (hw : IsDocument w (front ++ rest)) : Blanks rest :=
    hrest.1 (eq_of_isDocument hscan hw).2
  refine ⟨front, rest, rfl, hdocument, hdepth, ⟨?_, fun h => ⟨v, hdocument.append h⟩⟩, ?_⟩
  · rintro ⟨w, hw⟩
    exact hblanks hw
  · rw [readWhole_eq_some_iff]
    exact ⟨fun h => hblanks h.1, fun h => ⟨hdocument.append h, hdepth⟩⟩

/-- **The rest of a text is not looked at**, as long as it does not continue a number.

**Proof sketch.** Reading the document and the first character behind it finishes with `v`, by
`run_padded`. A finished reader stays finished, whatever it reads. -/
theorem readFirst_append {front : List Char} {v : Json} (h : IsDocument v front)
    (hd : v.depth ≤ maxDepth) {rest : List Char} (hrest : EndsNumber rest) :
    readFirst (front ++ rest) = some v := by
  obtain ⟨c, more, rfl, hc⟩ := hrest
  have hpadded : Reader.init.run (front ++ c :: (more ++ [' '])) = _ :=
    (Reader.run_spells v).run_padded h hd (m := .value) trivial (endsNumber_cons hc)
  obtain ⟨alone, hscan⟩ : ∃ alone, scan (front ++ c :: more) = .finished v alone := by
    refine ⟨_, Eq.trans ?_ (Reader.run_finished (r := Reader.init.deliver v) rfl
      (c :: (more ++ [' '])))⟩
    rw [← List.cons_append, ← List.append_assoc, Reader.run_append] at hpadded
    exact congrArg Reader.mode hpadded
  rw [readFirst, hscan]

end SchemaKit.Json
