import SchemaKit.Json.Printer
import SchemaKit.Proofs.Json.Numeral

/-!
# Reading what was written

Both ways of writing a value, compact and indented, are undone by the reader. The statements are
about the reader in the middle of a text: from a state in which a value may start, the written
value followed by any tail leads to the state in which the value has been delivered and the tail is
still to be read. The only demand on the tail is that it cannot continue a number.

## Main definitions

* `SchemaKit.Json.WellFormed` — every number in a value is a well-formed literal.

## Main results

* `SchemaKit.Json.Reader.run_quoted` — reading a quoted string gives back its characters.
* `SchemaKit.Json.Reader.run_compactOn`, `SchemaKit.Json.Reader.run_indentedOn` — reading a written
  value delivers the value.
* `SchemaKit.Json.readWhole_compact`, `SchemaKit.Json.readFirst_compact`,
  `SchemaKit.Json.readFirst_indented` — a written value reads back as itself.
-/

namespace SchemaKit

/-! ## Hexadecimal digits -/

namespace Text

/-- The value of a hexadecimal digit is the digit. -/
lemma hexValue?_hexDigit {n : Nat} (h : n < 16) : hexValue? (hexDigit n) = some n := by
  interval_cases n <;> rfl

end Text

namespace Json

/-! ## Strings -/

/-- A character that is written with hexadecimal digits has four of them and is no surrogate. -/
lemma toNat_of_isHexEscaped {c : Char} (h : isHexEscaped c = true) : c.toNat < 0xD800 := by
  simp only [isHexEscaped, Bool.or_eq_true, decide_eq_true_eq, beq_iff_eq] at h
  rcases h with ((((h | rfl) | rfl) | rfl) | rfl) | rfl
  · omega
  all_goals decide

/-- The letter of a short escape stands for the character, and is not the letter of the
hexadecimal escape. -/
lemma unescape?_of_shortEscape? {c l : Char} (h : shortEscape? c = some l) :
    unescape? l = some c ∧ l ≠ 'u' := by
  unfold shortEscape? at h
  split at h
  all_goals
    cases h
    try decide

/-- A character without escape may stand in a string as it is. -/
lemma plain_of_shortEscape? {c : Char} (h : shortEscape? c = none) : c ≠ '"' ∧ c ≠ '\\' := by
  constructor <;> rintro rfl <;> exact absurd h (by decide)

namespace Reader

variable (stack : List Frame) (room : Nat)

/-- **Reading four hexadecimal digits** takes in the character that they number.

**Proof sketch.** The four steps collect the four base-sixteen digits of the number. It is below
the surrogates, so the collected number is taken for a character at once. -/
lemma run_hex (isName : Bool) (acc : List Char) (c : Char) (h : c.toNat < 0xD800) :
    (Reader.mk stack room (.string isName ⟨acc, none⟩ (.digits 4 0))).run (Text.hex 4 c.toNat) =
      ⟨stack, room, .string isName ⟨c :: acc, none⟩ .none⟩ := by
  have hlt : ∀ n : Nat, n % 16 < 16 := fun n => Nat.mod_lt _ (by omega)
  have hvalue : 16 * (16 * (16 * (c.toNat / 16 / 16 / 16 % 16) + c.toNat / 16 / 16 % 16) +
      c.toNat / 16 % 16) + c.toNat % 16 = c.toNat := by omega
  have hlow : ¬0xDC00 ≤ c.toNat := by omega
  have hhigh : ¬0xD800 ≤ c.toNat := by omega
  simp [Text.hex, step, stepString, Text.hexValue?_hexDigit (hlt _), hvalue,
    StringState.pushUnit, StringState.push, StringState.settle, hlow, hhigh]

/-- Reading an escaped character takes in the character.

**Proof sketch.** By the way the character is written: with a short escape, with four digits, or as
itself. A character that stands for itself is no quote, no backslash and no control character. -/
lemma run_escape (isName : Bool) (acc : List Char) (c : Char) :
    (Reader.mk stack room (.string isName ⟨acc, none⟩ .none)).run (escape c) =
      ⟨stack, room, .string isName ⟨c :: acc, none⟩ .none⟩ := by
  unfold escape
  split
  · next l hl =>
    obtain ⟨hc, hu⟩ := unescape?_of_shortEscape? hl
    simp [step, stepString, hu, hc, StringState.push, StringState.settle]
  · next hl =>
    obtain ⟨hquote, hback⟩ := plain_of_shortEscape? hl
    split
    · next hhex =>
      simpa [step, stepString] using
        run_hex stack room isName acc c (toNat_of_isHexEscaped hhex)
    · next hhex =>
      have hcontrol : ¬c.toNat < 32 := by
        intro h
        simp [isHexEscaped, h] at hhex
      simp [step, stepString, hquote, hback, hcontrol, StringState.push, StringState.settle]

/-- Reading escaped characters takes in the characters, the last one in front. -/
lemma run_escaped (isName : Bool) (acc cs tail : List Char) :
    (Reader.mk stack room (.string isName ⟨acc, none⟩ .none)).run (escaped cs tail) =
      (Reader.mk stack room (.string isName ⟨cs.reverse ++ acc, none⟩ .none)).run tail := by
  induction cs generalizing acc with
  | nil => rfl
  | cons c cs ih => rw [escaped, run_append, run_escape, ih]; simp

/-- **Reading a quoted string**: behind the opening quote, the written characters and the closing
quote complete the string. -/
lemma run_quoted (isName : Bool) (s : String) (tail : List Char) :
    (Reader.mk stack room (.string isName ⟨[], none⟩ .none)).run (escaped s.toList ('"' :: tail)) =
      ((Reader.mk stack room .value).endString isName s).run tail := by
  rw [run_escaped, run_cons]
  simp only [step, stepString, StringState.text, StringState.settle, List.append_nil, if_true,
    List.reverse_reverse, String.ofList_toList]
  congr 1

end Reader

/-! ## Values -/

/-- Every number in a value is a well-formed literal. -/
def WellFormed : Json → Prop
  | .num n => n.WellFormed
  | .arr items => wellFormedItems items
  | .obj members => wellFormedMembers members
  | _ => True
where
  /-- Item by item. -/
  wellFormedItems : List Json → Prop
    | [] => True
    | v :: rest => v.WellFormed ∧ wellFormedItems rest
  /-- Member by member. -/
  wellFormedMembers : List (String × Json) → Prop
    | [] => True
    | (_, v) :: rest => v.WellFormed ∧ wellFormedMembers rest

/-- What follows an item of a written array cannot continue a number. -/
lemma endsNumber_compactItems (items : List Json) (tail : List Char) :
    EndsNumber (compactItems items true (']' :: tail)) := by
  cases items with
  | nil => exact endsNumber_cons (by decide)
  | cons v rest => exact endsNumber_cons (by decide)

/-- What follows a member of a written object cannot continue a number. -/
lemma endsNumber_compactMembers (members : List (String × Json)) (tail : List Char) :
    EndsNumber (compactMembers members true ('\x7d' :: tail)) := by
  cases members with
  | nil => exact endsNumber_cons (by decide)
  | cons m rest => exact endsNumber_cons (by decide)

namespace Reader

/-- A string that is a value, from its opening quote on. -/
lemma run_stringValue (stack : List Frame) (room : Nat) {m : Mode} (hm : startsValue m)
    (s : String) (tail : List Char) :
    (Reader.mk stack room m).run (quoted s tail) =
      ((Reader.mk stack room .value).deliver (.str s)).run tail := by
  rw [quoted, run_cons, step_startValue stack room hm (by decide) (by decide)]
  exact run_quoted stack room false s tail

/-- The modes in which the name of a member may start. -/
def startsName : Mode → Prop
  | .firstName | .name => True
  | _ => False

/-- A name and its colon lead to the value of the member. -/
lemma run_name (stack : List Frame) (room : Nat) {m : Mode} (hm : startsName m)
    (done : List (String × Json)) (old k : String) (tail : List Char) :
    (Reader.mk (.members done old :: stack) room m).run (quoted k (':' :: tail)) =
      (Reader.mk (.members done k :: stack) room .value).run tail := by
  have hquote : (Reader.mk (.members done old :: stack) room m).step '"' =
      ⟨.members done old :: stack, room, .string true ⟨[], none⟩ .none⟩ := by
    cases m with
    | firstName | name => rfl
    | _ => exact hm.elim
  rw [quoted, run_cons, hquote, run_quoted]
  rfl

/-- A comma leads to the next item of an array. -/
lemma step_nextItem (stack : List Frame) (room : Nat) (done : List Json) :
    (Reader.mk (.items done :: stack) room .separator).step ',' =
      ⟨.items done :: stack, room, .value⟩ := rfl

/-- A comma leads to the next name of an object. -/
lemma step_nextName (stack : List Frame) (room : Nat) (done : List (String × Json))
    (name : String) :
    (Reader.mk (.members done name :: stack) room .separator).step ',' =
      ⟨.members done name :: stack, room, .name⟩ := rfl

/-- An array is opened where there is room for it. -/
lemma step_openArray (stack : List Frame) (room : Nat) {m : Mode} (hm : startsValue m) :
    (Reader.mk stack (room + 1) m).step '[' = ⟨.items [] :: stack, room, .firstItem⟩ := by
  rw [step_startValue stack (room + 1) hm (by decide) (by decide)]
  rfl

/-- An object is opened where there is room for it. -/
lemma step_openObject (stack : List Frame) (room : Nat) {m : Mode} (hm : startsValue m) :
    (Reader.mk stack (room + 1) m).step '\x7b' =
      ⟨.members [] "" :: stack, room, .firstName⟩ := by
  rw [step_startValue stack (room + 1) hm (by decide) (by decide)]
  rfl

mutual

/-- **Reading a value in compact form** delivers the value.

**Proof sketch.** By the structure of the value. A container opens a frame, which takes one unit of
room; its items or members are read by the two companion statements, which also close it. -/
theorem run_compactOn : ∀ (v : Json) (stack : List Frame) (room : Nat) (m : Mode)
    (tail : List Char), v.WellFormed → v.depth ≤ room → startsValue m → EndsNumber tail →
    (Reader.mk stack room m).run (compactOn v tail) =
      ((Reader.mk stack room .value).deliver v).run tail
  | .null, stack, room, m, tail, _, _, hm, _ => by
    rw [compactOn, run_cons, step_startValue stack room hm (by decide) (by decide)]
    rfl
  | .bool true, stack, room, m, tail, _, _, hm, _ => by
    rw [compactOn, run_cons, step_startValue stack room hm (by decide) (by decide)]
    rfl
  | .bool false, stack, room, m, tail, _, _, hm, _ => by
    rw [compactOn, run_cons, step_startValue stack room hm (by decide) (by decide)]
    rfl
  | .num n, stack, room, m, tail, hv, _, hm, ht => by
    rw [compactOn]
    exact run_numeral stack room hm hv ht
  | .str s, stack, room, m, tail, _, _, hm, _ => by
    rw [compactOn]
    exact run_stringValue stack room hm s tail
  | .arr [], stack, room, m, tail, _, hd, hm, _ => by
    simp only [depth, depth.depthItems] at hd
    obtain ⟨room, rfl⟩ : ∃ r, room = r + 1 := ⟨room - 1, by omega⟩
    rw [compactOn, run_cons, step_openArray stack room hm]
    rfl
  | .arr (v :: rest), stack, room, m, tail, hv, hd, hm, _ => by
    simp only [depth, depth.depthItems] at hd
    obtain ⟨room, rfl⟩ : ∃ r, room = r + 1 := ⟨room - 1, by omega⟩
    rw [compactOn, run_cons, step_openArray stack room hm]
    simp only [compactItems, Bool.false_eq_true, if_false]
    rw [run_compactOn v _ room .firstItem _ hv.1 (by omega) trivial
      (endsNumber_compactItems rest tail)]
    exact run_compactItems rest stack room [v] tail hv.2 (by omega)
  | .obj [], stack, room, m, tail, _, hd, hm, _ => by
    simp only [depth, depth.depthMembers] at hd
    obtain ⟨room, rfl⟩ : ∃ r, room = r + 1 := ⟨room - 1, by omega⟩
    rw [compactOn, run_cons, step_openObject stack room hm]
    rfl
  | .obj ((k, v) :: rest), stack, room, m, tail, hv, hd, hm, _ => by
    simp only [depth, depth.depthMembers] at hd
    obtain ⟨room, rfl⟩ : ∃ r, room = r + 1 := ⟨room - 1, by omega⟩
    rw [compactOn, run_cons, step_openObject stack room hm]
    simp only [compactMembers, Bool.false_eq_true, if_false]
    rw [run_name _ _ (by trivial), run_compactOn v _ room .value _ hv.1 (by omega) trivial
      (endsNumber_compactMembers rest tail)]
    exact run_compactMembers rest stack room [(k, v)] k tail hv.2 (by omega)

/-- Reading the further items of an array in compact form closes the array.

**Proof sketch.** By recursion over the items, together with `run_compactOn`: the comma leads to the
next item, which is read with the room that its depth needs. -/
theorem run_compactItems : ∀ (items : List Json) (stack : List Frame) (room : Nat)
    (done : List Json) (tail : List Char), WellFormed.wellFormedItems items →
    depth.depthItems items ≤ room →
    (Reader.mk (.items done :: stack) room .separator).run
        (compactItems items true (']' :: tail)) =
      ((Reader.mk stack (room + 1) .value).deliver (.arr (done.reverse ++ items))).run tail
  | [], stack, room, done, tail, _, _ => by
    rw [compactItems, List.append_nil]
    rfl
  | v :: rest, stack, room, done, tail, hv, hd => by
    simp only [depth.depthItems] at hd
    simp only [compactItems, if_true]
    rw [run_cons, step_nextItem,
      run_compactOn v _ room .value _ hv.1 (by omega) trivial (endsNumber_compactItems rest tail)]
    have hrest := run_compactItems rest stack room (v :: done) tail hv.2 (by omega)
    rw [List.reverse_cons, List.append_assoc] at hrest
    exact hrest

/-- Reading the further members of an object in compact form closes the object.

**Proof sketch.** By recursion over the members, as `run_compactItems`, with the name in front of
every value. -/
theorem run_compactMembers : ∀ (members : List (String × Json)) (stack : List Frame) (room : Nat)
    (done : List (String × Json)) (name : String) (tail : List Char),
    WellFormed.wellFormedMembers members → depth.depthMembers members ≤ room →
    (Reader.mk (.members done name :: stack) room .separator).run
        (compactMembers members true ('\x7d' :: tail)) =
      ((Reader.mk stack (room + 1) .value).deliver (.obj (done.reverse ++ members))).run tail
  | [], stack, room, done, name, tail, _, _ => by
    rw [compactMembers, List.append_nil]
    rfl
  | (k, v) :: rest, stack, room, done, name, tail, hv, hd => by
    simp only [depth.depthMembers] at hd
    simp only [compactMembers, if_true]
    rw [run_cons, step_nextName, run_name _ _ (by trivial), run_compactOn v _ room .value _ hv.1
      (by omega) trivial (endsNumber_compactMembers rest tail)]
    have hrest := run_compactMembers rest stack room ((k, v) :: done) k tail hv.2 (by omega)
    rw [List.reverse_cons, List.append_assoc] at hrest
    exact hrest

end

/-! ## Indented form -/

/-- The modes between tokens, in which blanks are passed over. -/
def isBetween : Mode → Prop
  | .value | .firstItem | .firstName | .name | .colon | .separator => True
  | _ => False

/-- A blank between tokens changes nothing. -/
lemma step_blank (stack : List Frame) (room : Nat) {m : Mode} (hm : isBetween m) {c : Char}
    (hc : isBlank c = true) : (Reader.mk stack room m).step c = ⟨stack, room, m⟩ := by
  cases m with
  | value | firstItem | firstName | name | colon | separator => simp [step, stepBetween, hc]
  | _ => exact hm.elim

/-- Spaces between tokens change nothing. -/
lemma run_spaces (stack : List Frame) (room : Nat) {m : Mode} (hm : isBetween m) (n : Nat)
    (tail : List Char) :
    (Reader.mk stack room m).run (List.replicate n ' ' ++ tail) =
      (Reader.mk stack room m).run tail := by
  induction n with
  | zero => rfl
  | succ n ih =>
    rw [List.replicate_succ, List.cons_append, run_cons, step_blank stack room hm (by decide), ih]

/-- A line end and its indentation change nothing between tokens. -/
lemma run_newline (stack : List Frame) (room : Nat) {m : Mode} (hm : isBetween m) (level : Nat)
    (tail : List Char) :
    (Reader.mk stack room m).run (newline level tail) = (Reader.mk stack room m).run tail := by
  rw [newline, run_cons, step_blank stack room hm (by decide), run_spaces stack room hm]

/-- A name, its colon and the space behind it lead to the value of the member. -/
lemma run_spacedName (stack : List Frame) (room : Nat) {m : Mode} (hm : startsName m)
    (done : List (String × Json)) (old k : String) (tail : List Char) :
    (Reader.mk (.members done old :: stack) room m).run (quoted k (':' :: ' ' :: tail)) =
      (Reader.mk (.members done k :: stack) room .value).run tail := by
  rw [run_name _ _ hm, run_cons, step_blank _ _ (by trivial) (by decide)]

end Reader

/-- What follows an item of an indented array cannot continue a number. -/
lemma endsNumber_indentedItems (items : List Json) (level : Nat) (tail : List Char) :
    EndsNumber (indentedItems items level (newline level tail)) := by
  cases items with
  | nil => exact endsNumber_cons (by decide)
  | cons v rest => exact endsNumber_cons (by decide)

/-- What follows a member of an indented object cannot continue a number. -/
lemma endsNumber_indentedMembers (members : List (String × Json)) (level : Nat)
    (tail : List Char) : EndsNumber (indentedMembers members level (newline level tail)) := by
  cases members with
  | nil => exact endsNumber_cons (by decide)
  | cons m rest => exact endsNumber_cons (by decide)

namespace Reader

mutual

/-- **Reading a value in indented form** delivers the value.

**Proof sketch.** As for the compact form; line ends and indentation stand between tokens, where
they change nothing. -/
theorem run_indentedOn : ∀ (v : Json) (stack : List Frame) (room : Nat) (m : Mode) (level : Nat)
    (tail : List Char), v.WellFormed → v.depth ≤ room → startsValue m → EndsNumber tail →
    (Reader.mk stack room m).run (indentedOn v level tail) =
      ((Reader.mk stack room .value).deliver v).run tail
  | .null, stack, room, m, level, tail, hv, hd, hm, ht => by
    rw [indentedOn, run_compactOn _ _ _ _ _ hv hd hm ht]
  | .bool b, stack, room, m, level, tail, hv, hd, hm, ht => by
    rw [indentedOn, run_compactOn _ _ _ _ _ hv hd hm ht]
  | .num n, stack, room, m, level, tail, hv, hd, hm, ht => by
    rw [indentedOn, run_compactOn _ _ _ _ _ hv hd hm ht]
  | .str s, stack, room, m, level, tail, hv, hd, hm, ht => by
    rw [indentedOn, run_compactOn _ _ _ _ _ hv hd hm ht]
  | .arr [], stack, room, m, level, tail, hv, hd, hm, _ => by
    simp only [depth, depth.depthItems] at hd
    obtain ⟨room, rfl⟩ : ∃ r, room = r + 1 := ⟨room - 1, by omega⟩
    rw [indentedOn, run_cons, step_openArray stack room hm]
    rfl
  | .arr (v :: rest), stack, room, m, level, tail, hv, hd, hm, _ => by
    simp only [depth, depth.depthItems] at hd
    obtain ⟨room, rfl⟩ : ∃ r, room = r + 1 := ⟨room - 1, by omega⟩
    rw [indentedOn, run_cons, step_openArray stack room hm, run_newline _ _ (by trivial),
      run_indentedOn v _ room .firstItem (level + 1) _ hv.1 (by omega) trivial
        (endsNumber_indentedItems rest level _)]
    exact run_indentedItems rest stack room [v] level tail hv.2 (by omega)
  | .obj [], stack, room, m, level, tail, _, hd, hm, _ => by
    simp only [depth, depth.depthMembers] at hd
    obtain ⟨room, rfl⟩ : ∃ r, room = r + 1 := ⟨room - 1, by omega⟩
    rw [indentedOn, run_cons, step_openObject stack room hm]
    rfl
  | .obj ((k, v) :: rest), stack, room, m, level, tail, hv, hd, hm, _ => by
    simp only [depth, depth.depthMembers] at hd
    obtain ⟨room, rfl⟩ : ∃ r, room = r + 1 := ⟨room - 1, by omega⟩
    rw [indentedOn, run_cons, step_openObject stack room hm, run_newline _ _ (by trivial),
      run_spacedName _ _ (by trivial), run_indentedOn v _ room .value (level + 1) _ hv.1
        (by omega) trivial (endsNumber_indentedMembers rest level _)]
    exact run_indentedMembers rest stack room [(k, v)] k level tail hv.2 (by omega)

/-- Reading the further items of an indented array closes the array.

**Proof sketch.** By recursion over the items, as `run_compactItems`, with a new line in front of
every item. -/
theorem run_indentedItems : ∀ (items : List Json) (stack : List Frame) (room : Nat)
    (done : List Json) (level : Nat) (tail : List Char), WellFormed.wellFormedItems items →
    depth.depthItems items ≤ room →
    (Reader.mk (.items done :: stack) room .separator).run
        (indentedItems items level (newline level (']' :: tail))) =
      ((Reader.mk stack (room + 1) .value).deliver (.arr (done.reverse ++ items))).run tail
  | [], stack, room, done, level, tail, _, _ => by
    rw [indentedItems, run_newline _ _ (by trivial), List.append_nil]
    rfl
  | v :: rest, stack, room, done, level, tail, hv, hd => by
    simp only [depth.depthItems] at hd
    rw [indentedItems, run_cons, step_nextItem, run_newline _ _ (by trivial),
      run_indentedOn v _ room .value (level + 1) _ hv.1 (by omega) trivial
        (endsNumber_indentedItems rest level _)]
    have hrest := run_indentedItems rest stack room (v :: done) level tail hv.2 (by omega)
    rw [List.reverse_cons, List.append_assoc] at hrest
    exact hrest

/-- Reading the further members of an indented object closes the object.

**Proof sketch.** By recursion over the members, as `run_compactMembers`, with a new line in front
of every name and a blank behind the colon. -/
theorem run_indentedMembers : ∀ (members : List (String × Json)) (stack : List Frame) (room : Nat)
    (done : List (String × Json)) (name : String) (level : Nat) (tail : List Char),
    WellFormed.wellFormedMembers members → depth.depthMembers members ≤ room →
    (Reader.mk (.members done name :: stack) room .separator).run
        (indentedMembers members level (newline level ('\x7d' :: tail))) =
      ((Reader.mk stack (room + 1) .value).deliver (.obj (done.reverse ++ members))).run tail
  | [], stack, room, done, name, level, tail, _, _ => by
    rw [indentedMembers, run_newline _ _ (by trivial), List.append_nil]
    rfl
  | (k, v) :: rest, stack, room, done, name, level, tail, hv, hd => by
    simp only [depth.depthMembers] at hd
    rw [indentedMembers, run_cons, step_nextName, run_newline _ _ (by trivial),
      run_spacedName _ _ (by trivial), run_indentedOn v _ room .value (level + 1) _ hv.1
        (by omega) trivial (endsNumber_indentedMembers rest level _)]
    have hrest := run_indentedMembers rest stack room ((k, v) :: done) k level tail hv.2 (by omega)
    rw [List.reverse_cons, List.append_assoc] at hrest
    exact hrest

end

end Reader

/-! ## Tails -/

/-- Escaped characters stand in front of whatever follows. -/
lemma escaped_append (cs a b : List Char) : escaped cs (a ++ b) = escaped cs a ++ b := by
  induction cs with
  | nil => rfl
  | cons c cs ih => rw [escaped, ih, escaped, List.append_assoc]

/-- A quoted string stands in front of whatever follows. -/
lemma quoted_append (s : String) (a b : List Char) : quoted s (a ++ b) = quoted s a ++ b := by
  rw [quoted, quoted, ← List.cons_append, escaped_append]
  rfl

mutual

/-- A value in compact form stands in front of whatever follows.

**Proof sketch.** By recursion over the value, together with the two lemmas about items and members. -/
theorem compactOn_append : ∀ (v : Json) (a b : List Char),
    compactOn v (a ++ b) = compactOn v a ++ b
  | .null, a, b => rfl
  | .bool true, a, b => rfl
  | .bool false, a, b => rfl
  | .num n, a, b => by rw [compactOn, compactOn, List.append_assoc]
  | .str s, a, b => by rw [compactOn, compactOn, quoted_append]
  | .arr items, a, b => by
    rw [compactOn, compactOn, ← List.cons_append, compactItems_append]
    rfl
  | .obj members, a, b => by
    rw [compactOn, compactOn, ← List.cons_append, compactMembers_append]
    rfl

/-- Items in compact form stand in front of whatever follows. -/
theorem compactItems_append : ∀ (items : List Json) (more : Bool) (a b : List Char),
    compactItems items more (a ++ b) = compactItems items more a ++ b
  | [], _, a, b => rfl
  | v :: rest, more, a, b => by
    simp only [compactItems, compactItems_append rest true a b, compactOn_append v _ b]
    cases more <;> rfl

/-- Members in compact form stand in front of whatever follows. -/
theorem compactMembers_append : ∀ (members : List (String × Json)) (more : Bool)
    (a b : List Char), compactMembers members more (a ++ b) = compactMembers members more a ++ b
  | [], _, a, b => rfl
  | (k, v) :: rest, more, a, b => by
    simp only [compactMembers, compactMembers_append rest true a b, compactOn_append v _ b,
      ← List.cons_append, quoted_append]
    cases more <;> rfl

end

/-- A line end stands in front of whatever follows. -/
lemma newline_append (level : Nat) (a b : List Char) :
    newline level (a ++ b) = newline level a ++ b := by simp [newline]

mutual

/-- A value in indented form stands in front of whatever follows.

**Proof sketch.** By recursion over the value, together with the two lemmas about items and members.
A value without items is written as in compact form. -/
theorem indentedOn_append : ∀ (v : Json) (level : Nat) (a b : List Char),
    indentedOn v level (a ++ b) = indentedOn v level a ++ b
  | .null, _, a, b => rfl
  | .bool c, _, a, b => by rw [indentedOn, indentedOn, compactOn_append]
  | .num n, _, a, b => by rw [indentedOn, indentedOn, compactOn_append]
  | .str s, _, a, b => by rw [indentedOn, indentedOn, compactOn_append]
  | .arr [], _, a, b => by rw [indentedOn, indentedOn]; rfl
  | .arr (v :: rest), level, a, b => by
    simp only [indentedOn, ← List.cons_append, newline_append, indentedItems_append rest,
      indentedOn_append v]
  | .obj [], _, a, b => by rw [indentedOn, indentedOn]; rfl
  | .obj ((k, v) :: rest), level, a, b => by
    simp only [indentedOn, ← List.cons_append, newline_append, indentedMembers_append rest,
      indentedOn_append v, quoted_append]

/-- Indented items stand in front of whatever follows. -/
theorem indentedItems_append : ∀ (items : List Json) (level : Nat) (a b : List Char),
    indentedItems items level (a ++ b) = indentedItems items level a ++ b
  | [], _, a, b => rfl
  | v :: rest, level, a, b => by
    simp only [indentedItems, indentedItems_append rest, indentedOn_append v, newline_append,
      List.cons_append]

/-- Indented members stand in front of whatever follows. -/
theorem indentedMembers_append : ∀ (members : List (String × Json)) (level : Nat)
    (a b : List Char),
    indentedMembers members level (a ++ b) = indentedMembers members level a ++ b
  | [], _, a, b => rfl
  | (k, v) :: rest, level, a, b => by
    simp only [indentedMembers, indentedMembers_append rest, indentedOn_append v, newline_append,
      quoted_append, ← List.cons_append]

end

/-! ## Whole texts -/

/-- A text that delivers a value to the empty stack is read as that value and nothing else. -/
lemma scan_of_run {cs : List Char} {v : Json}
    (h : Reader.init.run (cs ++ [' ']) = (Reader.init.deliver v).run [' ']) :
    scan cs = .finished v true := by
  rw [Reader.run_append] at h
  have hmode := congrArg Reader.mode h
  exact hmode

/-- The text of a value in compact form leads the reader to the value. -/
lemma scan_compact {v : Json} (hv : v.WellFormed) (hd : v.depth ≤ maxDepth) :
    scan v.compact.toList = .finished v true := by
  apply scan_of_run
  rw [compact, String.toList_ofList, ← compactOn_append]
  exact Reader.run_compactOn v [] maxDepth .value [' '] hv hd trivial (endsNumber_cons (by decide))

/-- The text of a value in indented form leads the reader to the value. -/
lemma scan_indented {v : Json} (hv : v.WellFormed) (hd : v.depth ≤ maxDepth) :
    scan v.indented.toList = .finished v true := by
  apply scan_of_run
  rw [indented, String.toList_ofList, ← indentedOn_append]
  exact Reader.run_indentedOn v [] maxDepth .value 0 [' '] hv hd trivial
    (endsNumber_cons (by decide))

/-- **A value in compact form reads back as itself.** -/
theorem readWhole_compact {v : Json} (hv : v.WellFormed) (hd : v.depth ≤ maxDepth) :
    readWhole v.compact.toList = some v := by
  rw [readWhole, scan_compact hv hd]

/-- A value in compact form is the first value of its text. -/
theorem readFirst_compact {v : Json} (hv : v.WellFormed) (hd : v.depth ≤ maxDepth) :
    readFirst v.compact.toList = some v := by
  rw [readFirst, scan_compact hv hd]

/-- A value in indented form is the first value of its text. -/
theorem readFirst_indented {v : Json} (hv : v.WellFormed) (hd : v.depth ≤ maxDepth) :
    readFirst v.indented.toList = some v := by
  rw [readFirst, scan_indented hv hd]

end Json

end SchemaKit
