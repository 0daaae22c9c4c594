import Mathlib.Data.List.Basic
import SchemaKit.Proofs.Json.Grammar

/-!
# What the reader has consumed

The state of the reader tells what it has consumed: the open containers and the mode spell the text
so far. One character changes both alike, so a text that is read to its end is a document of the
value that was delivered. Together with the other direction this says what the reader accepts,
without the reader.

## Main definitions

* `SchemaKit.Json.Frame.Opened` — the text of open containers up to where a value may start.
* `SchemaKit.Json.Reader.Consumed` — the text that leads to a state of the reader.

## Main results

* `SchemaKit.Json.Reader.Consumed.step` — what one character does.
* `SchemaKit.Json.readWhole_eq_some_iff` — a text is read as a value exactly if it is a document of
  the value and its containers are not nested too deeply.
-/

namespace SchemaKit.Json

/-! ## Items and members -/

/-- The text of an item: the value with blanks around it. -/
def Item (v : Json) : List Char → Prop := Padded (Spells v)

/-- The text of a member: its name, a colon, and its value. -/
def Member (e : String × Json) (part : List Char) : Prop :=
  ∃ name value, part = name ++ ':' :: value ∧ Padded (SpellsText e.1) name ∧ Padded (Spells e.2) value

section

variable {α : Type} (P : α → List Char → Prop)

/-- Texts with a comma behind each of them. -/
def Ended : List α → List Char → Prop
  | [], t => t = []
  | x :: xs, t => ∃ part more, t = part ++ ',' :: more ∧ P x part ∧ Ended xs more

/-- Texts with commas between them. -/
def Separated : List α → List Char → Prop
  | [], body => Blanks body
  | [x], body => P x body
  | x :: y :: rest, body =>
    ∃ part more, body = part ++ ',' :: more ∧ P x part ∧ Separated (y :: rest) more

variable {P} {xs : List α} {x : α} {t part : List Char}

/-- One more text and its comma.

**Proof sketch.** Induction on the texts that are there. -/
lemma Ended.append (ht : Ended P xs t) (hpart : P x part) :
    Ended P (xs ++ [x]) (t ++ (part ++ [','])) := by
  induction xs generalizing t with
  | nil =>
    obtain rfl := ht
    exact ⟨part, [], rfl, hpart, rfl⟩
  | cons y ys ih =>
    obtain ⟨first, more, rfl, hfirst, hmore⟩ := ht
    refine ⟨first, more ++ (part ++ [',']), ?_, hfirst, ih hmore⟩
    rw [List.append_assoc, List.cons_append]

/-- The last text has no comma.

**Proof sketch.** By induction on the elements in front of the last one. Each of them ends in its
comma, and the last one stands behind all commas. -/
lemma Ended.separated (ht : Ended P xs t) (hpart : P x part) :
    Separated P (xs ++ [x]) (t ++ part) := by
  induction xs generalizing t with
  | nil =>
    obtain rfl := ht
    exact hpart
  | cons y ys ih =>
    obtain ⟨first, more, rfl, hfirst, hmore⟩ := ht
    have hrest := ih hmore
    rw [List.append_assoc, List.cons_append, List.cons_append]
    generalize hzs : ys ++ [x] = zs at hrest ⊢
    cases zs with
    | nil => exact absurd hzs (List.append_ne_nil_of_right_ne_nil _ (List.cons_ne_nil _ _))
    | cons z zs => exact ⟨first, more ++ part, rfl, hfirst, hrest⟩

end

/-- Items with commas between them spell a list.

**Proof sketch.** Induction on the items: the last one has no comma behind it. -/
lemma spellsItems_of_separated {items : List Json} {body : List Char}
    (h : Separated Item items body) :
    Spells.spellsItems items body := by
  induction items generalizing body with
  | nil => exact h
  | cons v rest ih =>
    cases rest with
    | nil => exact h
    | cons w rest =>
      obtain ⟨part, more, rfl, hpart, hmore⟩ := h
      exact ⟨part, more, rfl, hpart, ih hmore⟩

/-- Members with commas between them spell an object.

**Proof sketch.** Induction on the members: the last one has no comma behind it. -/
lemma spellsMembers_of_separated {members : List (String × Json)} {body : List Char}
    (h : Separated Member members body) : Spells.spellsMembers members body := by
  induction members generalizing body with
  | nil => exact h
  | cons e rest ih =>
    cases rest with
    | nil => exact h
    | cons e' rest =>
      obtain ⟨_, more, rfl, ⟨name, value, rfl, hname, hvalue⟩, hmore⟩ := h
      exact ⟨name, value, more, rfl, hname, hvalue, ih hmore⟩

/-! ## Blanks -/

/-- Blanks behind blanks are blanks. -/
lemma Blanks.append {a b : List Char} (ha : Blanks a) (hb : Blanks b) : Blanks (a ++ b) := by
  intro c hc
  rcases List.mem_append.1 hc with hc | hc
  · exact ha c hc
  · exact hb c hc

/-- Blanks in front of a text. -/
lemma padded_of_blanks {P : List Char → Prop} {b u : List Char} (hb : Blanks b) (hu : P u) :
    Padded P (b ++ u) := ⟨b, u, [], by rw [List.append_nil], hb, hu, blanks_nil⟩

/-- More blanks behind a text. -/
lemma Padded.append {P : List Char → Prop} {part b : List Char} (h : Padded P part) (hb : Blanks b) :
    Padded P (part ++ b) := by
  obtain ⟨b₁, u, b₂, rfl, hb₁, hu, hb₂⟩ := h
  exact ⟨b₁, u, b₂ ++ b, by simp only [List.append_assoc], hb₁, hu, hb₂.append hb⟩

/-- More blanks behind a member. -/
lemma Member.append {e : String × Json} {part b : List Char} (h : Member e part) (hb : Blanks b) :
    Member e (part ++ b) := by
  obtain ⟨name, value, rfl, hname, hvalue⟩ := h
  exact ⟨name, value ++ b, by rw [List.append_assoc, List.cons_append], hname, hvalue.append hb⟩

/-! ## Open containers -/

namespace Frame

/-- The text of open containers up to where a value may start. -/
def Opened : List Frame → List Char → Prop
  | [], q => Blanks q
  | .items done :: rest, q =>
    ∃ p t b, q = p ++ '[' :: (t ++ b) ∧ Opened rest p ∧ Ended Item done.reverse t ∧ Blanks b
  | .members done name :: rest, q =>
    ∃ p t k b, q = p ++ '\x7b' :: (t ++ (k ++ ':' :: b)) ∧ Opened rest p ∧
      Ended Member done.reverse t ∧ Padded (SpellsText name) k ∧ Blanks b

/-- The text of open containers up to where a name may start. -/
def Named : List Frame → List Char → Prop
  | .members done _ :: rest, q =>
    ∃ p t b, q = p ++ '\x7b' :: (t ++ b) ∧ Opened rest p ∧ Ended Member done.reverse t ∧ Blanks b
  | _, _ => False

/-- The text of open containers up to behind a name. -/
def BehindName : List Frame → List Char → Prop
  | .members done name :: rest, q =>
    ∃ p t k, q = p ++ '\x7b' :: (t ++ k) ∧ Opened rest p ∧ Ended Member done.reverse t ∧
      Padded (SpellsText name) k
  | _, _ => False

/-- The text of open containers up to behind a value. -/
def BehindValue : List Frame → List Char → Prop
  | .items (v :: done) :: rest, q =>
    ∃ p t part, q = p ++ '[' :: (t ++ part) ∧ Opened rest p ∧ Ended Item done.reverse t ∧ Item v part
  | .members (e :: done) _ :: rest, q =>
    ∃ p t part, q = p ++ '\x7b' :: (t ++ part) ∧ Opened rest p ∧ Ended Member done.reverse t ∧
      Member e part
  | _, _ => False

variable {stack : List Frame} {q b : List Char}

/-- Blanks may follow where a value may start. -/
lemma Opened.append (h : Opened stack q) (hb : Blanks b) : Opened stack (q ++ b) := by
  match stack, h with
  | [], h => exact Blanks.append h hb
  | .items done :: rest, ⟨p, t, b', hq, hp, ht, hb'⟩ =>
    exact ⟨p, t, b' ++ b, by simp only [hq, List.append_assoc, List.cons_append], hp, ht,
      hb'.append hb⟩
  | .members done name :: rest, ⟨p, t, k, b', hq, hp, ht, hk, hb'⟩ =>
    exact ⟨p, t, k, b' ++ b, by simp only [hq, List.append_assoc, List.cons_append], hp, ht, hk,
      hb'.append hb⟩

/-- Blanks may follow where a name may start. -/
lemma Named.append (h : Named stack q) (hb : Blanks b) : Named stack (q ++ b) := by
  match stack, h with
  | .members done name :: rest, ⟨p, t, b', hq, hp, ht, hb'⟩ =>
    exact ⟨p, t, b' ++ b, by simp only [hq, List.append_assoc, List.cons_append], hp, ht,
      hb'.append hb⟩

/-- Blanks may follow a name. -/
lemma BehindName.append (h : BehindName stack q) (hb : Blanks b) : BehindName stack (q ++ b) := by
  match stack, h with
  | .members done name :: rest, ⟨p, t, k, hq, hp, ht, hk⟩ =>
    exact ⟨p, t, k ++ b, by simp only [hq, List.append_assoc, List.cons_append], hp, ht, hk.append hb⟩

/-- A colon behind a name. -/
lemma BehindName.opened (h : BehindName stack q) : Opened stack (q ++ [':']) := by
  match stack, h with
  | .members done name :: rest, ⟨p, t, k, hq, hp, ht, hk⟩ =>
    exact ⟨p, t, k, [], by simp [hq], hp, ht, hk, blanks_nil⟩

/-- Blanks may follow a value. -/
lemma BehindValue.append (h : BehindValue stack q) (hb : Blanks b) : BehindValue stack (q ++ b) := by
  match stack, h with
  | .items (v :: done) :: rest, ⟨p, t, part, hq, hp, ht, hpart⟩ =>
    exact ⟨p, t, part ++ b, by simp only [hq, List.append_assoc, List.cons_append], hp, ht,
      Padded.append hpart hb⟩
  | .members (e :: done) name :: rest, ⟨p, t, part, hq, hp, ht, hpart⟩ =>
    exact ⟨p, t, part ++ b, by simp only [hq, List.append_assoc, List.cons_append], hp, ht,
      hpart.append hb⟩

end Frame

/-! ## Unfinished tokens -/

/-- The characters of a literal that is being read. -/
def NumeralState.chars : NumeralState → List Char
  | .minus => ['-']
  | .whole neg ds => Numeral.chars ⟨neg, ds.reverse, none, none⟩
  | .point neg w => Numeral.chars ⟨neg, w, some [], none⟩
  | .fraction neg w ds => Numeral.chars ⟨neg, w, some ds.reverse, none⟩
  | .mark neg w f cap => Numeral.chars ⟨neg, w, f, some ⟨cap, none, []⟩⟩
  | .sign neg w f cap m => Numeral.chars ⟨neg, w, f, some ⟨cap, some m, []⟩⟩
  | .exponent neg w f cap sgn ds => Numeral.chars ⟨neg, w, f, some ⟨cap, sgn, ds.reverse⟩⟩

/-- A character that continues a literal stands behind the others.

**Proof sketch.** By cases on the part of the literal that is being read. The character joins this
part or starts the next one, and in each case it stands at the end of what was read. -/
lemma NumeralState.chars_advance? {s s' : NumeralState} {c : Char} (h : s.advance? c = some s') :
    s'.chars = s.chars ++ [c] := by
  -- the mark of an exponent is kept as it was written
  have hmark (h : c = 'e' ∨ c = 'E') : (if c = 'E' then 'E' else 'e') = c := by
    rcases h with rfl | rfl <;> rfl
  cases s with
  | minus | point neg w | sign neg w f cap m | exponent neg w f cap sgn ds =>
    simp only [advance?] at h
    split_ifs at h
    cases h
    simp [chars, Numeral.chars, Exponent.chars]
  | whole neg ds | fraction neg w ds =>
    simp only [advance?] at h
    split_ifs at h <;> cases h <;> simp_all [chars, Numeral.chars, Exponent.chars]
  | mark neg w f cap =>
    simp only [advance?] at h
    split_ifs at h with hdigit hsign
    · cases h
      simp [chars, Numeral.chars, Exponent.chars]
    · cases h
      simp only [Bool.or_eq_true, decide_eq_true_eq] at hsign
      rcases hsign with rfl | rfl <;> simp [chars, Numeral.chars, Exponent.chars]

/-- A literal that may end has been read in full. -/
lemma NumeralState.chars_complete? {s : NumeralState} {n : Numeral} (h : s.complete? = some n) :
    n.chars = s.chars := by
  cases s <;> cases h <;> rfl

/-- The characters of an escape that is being read. -/
def Escape.Part : Escape → List Char → Prop
  | .none, w => w = []
  | .backslash, w => w = ['\\']
  | .digits missing v, w =>
    ∃ ds, w = '\\' :: 'u' :: ds ∧ ds.length + missing = 4 ∧ 0 < missing ∧
      (∀ d ∈ ds, (Text.hexValue? d).isSome) ∧ v = unitValue ds

/-- One more hexadecimal digit. -/
lemma unitValue_append {ds : List Char} {d : Char} {h : Nat} (hd : Text.hexValue? d = some h) :
    unitValue (ds ++ [d]) = 16 * unitValue ds + h := by
  rw [unitValue, List.foldl_append, ← unitValue]
  simp [hd]

/-! ## The states of the reader -/

namespace Reader

/-- The text that leads to a mode with these containers open. -/
def ConsumedIn (stack : List Frame) : Mode → List Char → Prop
  | .value, cs => Frame.Opened stack cs
  | .firstItem, cs => (∃ rest, stack = .items [] :: rest) ∧ Frame.Opened stack cs
  | .firstName, cs => (∃ name rest, stack = .members [] name :: rest) ∧ Frame.Named stack cs
  | .name, cs => Frame.Named stack cs
  | .colon, cs => Frame.BehindName stack cs
  | .separator, cs => Frame.BehindValue stack cs
  | .string isName s e, cs =>
    ∃ q ps w, cs = q ++ '"' :: (ps.flatMap Piece.chars ++ w) ∧ (∀ p ∈ ps, p.Proper) ∧
      s = StringState.feedAll ⟨[], none⟩ ps ∧ e.Part w ∧
      if isName then Frame.Named stack q else Frame.Opened stack q
  | .numeral s, cs => ∃ q, cs = q ++ s.chars ∧ Frame.Opened stack q
  | .word rest v, cs => ∃ q w, cs = q ++ w ∧ Spells v (w ++ rest) ∧ Frame.Opened stack q
  | .finished v alone, cs => alone = true → IsDocument v cs
  | .failed, _ => True

/-- The text that leads to a state of the reader. -/
def Consumed (r : Reader) (cs : List Char) : Prop := ConsumedIn r.stack r.mode cs

variable {r : Reader} {cs q u : List Char}

/-- A failed reader may have consumed anything. -/
lemma consumed_fail : r.fail.Consumed cs := trivial

/-- A value is complete.

**Proof sketch.** By the innermost container: the value is the document, the next item, or the value
of the next member. -/
lemma consumed_deliver {v : Json} (hq : Frame.Opened r.stack q) (hu : Spells v u) :
    (r.deliver v).Consumed (q ++ u) := by
  obtain ⟨stack, room, mode⟩ := r
  match stack, hq with
  | [], hq => exact fun _ => padded_of_blanks hq hu
  | .items done :: rest, ⟨p, t, b, hq, hp, ht, hb⟩ =>
    exact ⟨p, t, b ++ u, by simp only [hq, List.append_assoc, List.cons_append], hp, ht,
      padded_of_blanks hb hu⟩
  | .members done name :: rest, ⟨p, t, k, b, hq, hp, ht, hk, hb⟩ =>
    exact ⟨p, t, k ++ ':' :: (b ++ u), by simp only [hq, List.append_assoc, List.cons_append], hp, ht,
      k, b ++ u, rfl, hk, padded_of_blanks hb hu⟩

/-- An array is closed behind its bracket. -/
lemma consumed_closeArray_first {rest : List Frame} (hstack : r.stack = .items [] :: rest)
    (h : Frame.Opened r.stack cs) : r.closeArray.Consumed (cs ++ [']']) := by
  rw [hstack] at h
  obtain ⟨p, t, b, rfl, hp, rfl, hb⟩ := h
  have hspells : Spells (.arr []) ('[' :: (b ++ [']'])) := ⟨b, rfl, hb⟩
  rw [closeArray, hstack]
  simpa using consumed_deliver (r := ⟨rest, r.room + 1, .value⟩) hp hspells

/-- An array is closed behind an item.

**Proof sketch.** The items so far end in commas, and the last one does not. Together with both
brackets they spell the array, which is delivered to what is around it. -/
lemma consumed_closeArray {done : List Json} {rest : List Frame}
    (hstack : r.stack = .items done :: rest)
    (h : Frame.BehindValue r.stack cs) : r.closeArray.Consumed (cs ++ [']']) := by
  rw [hstack] at h
  cases done with
  | nil => exact h.elim
  | cons v done =>
    obtain ⟨p, t, part, rfl, hp, ht, hpart⟩ := h
    have hitems := spellsItems_of_separated (ht.separated hpart)
    have hspells : Spells (.arr (v :: done).reverse) ('[' :: ((t ++ part) ++ [']'])) :=
      ⟨_, rfl, by rwa [List.reverse_cons]⟩
    rw [closeArray, hstack]
    simpa using consumed_deliver (r := ⟨rest, r.room + 1, .value⟩) hp hspells

/-- An object is closed behind its brace. -/
lemma consumed_closeObject_first {name : String} {rest : List Frame}
    (hstack : r.stack = .members [] name :: rest) (h : Frame.Named r.stack cs) :
    r.closeObject.Consumed (cs ++ ['\x7d']) := by
  rw [hstack] at h
  obtain ⟨p, t, b, rfl, hp, rfl, hb⟩ := h
  have hspells : Spells (.obj []) ('\x7b' :: (b ++ ['\x7d'])) := ⟨b, rfl, hb⟩
  rw [closeObject, hstack]
  simpa using consumed_deliver (r := ⟨rest, r.room + 1, .value⟩) hp hspells

/-- An object is closed behind a member.

**Proof sketch.** The members so far end in commas, and the last one does not. Together with both
brackets they spell the object, which is delivered to what is around it. -/
lemma consumed_closeObject {done : List (String × Json)} {name : String} {rest : List Frame}
    (hstack : r.stack = .members done name :: rest) (h : Frame.BehindValue r.stack cs) :
    r.closeObject.Consumed (cs ++ ['\x7d']) := by
  rw [hstack] at h
  cases done with
  | nil => exact h.elim
  | cons e done =>
    obtain ⟨p, t, part, rfl, hp, ht, hpart⟩ := h
    have hmembers := spellsMembers_of_separated (ht.separated hpart)
    have hspells : Spells (.obj (e :: done).reverse) ('\x7b' :: ((t ++ part) ++ ['\x7d'])) :=
      ⟨_, rfl, by rwa [List.reverse_cons]⟩
    rw [closeObject, hstack]
    simpa using consumed_deliver (r := ⟨rest, r.room + 1, .value⟩) hp hspells

/-- The first character of a value.

**Proof sketch.** By cases on the character: a bracket opens a container if there is room, a quote
starts a text, a digit or a minus starts a number, and the first letter of a word leaves the rest of
it. Any other character fails. -/
lemma consumed_startValue (h : Frame.Opened r.stack cs) (c : Char) :
    (r.startValue c).Consumed (cs ++ [c]) := by
  have hopen {f : Frame} {m : Mode} {d : Char} (hf : ConsumedIn (f :: r.stack) m (cs ++ [d])) :
      (r.openFrame f m).Consumed (cs ++ [d]) := by
    unfold openFrame
    split
    · exact consumed_fail
    · exact hf
  have hword {d : Char} {rest : List Char} {v : Json} (hv : Spells v (d :: rest)) :
      ConsumedIn r.stack (.word rest v) (cs ++ [d]) := ⟨cs, [d], rfl, hv, h⟩
  unfold startValue
  split_ifs with hbrace hbracket hquote hminus hdigit ht hf hn
  · subst hbrace
    exact hopen ⟨⟨"", r.stack, rfl⟩, cs, [], [], rfl, h, rfl, blanks_nil⟩
  · subst hbracket
    exact hopen ⟨⟨r.stack, rfl⟩, cs, [], [], rfl, h, rfl, blanks_nil⟩
  · subst hquote
    exact ⟨cs, [], [], rfl, List.forall_mem_nil _, rfl, rfl, h⟩
  · subst hminus
    exact ⟨cs, rfl, h⟩
  · exact ⟨cs, rfl, h⟩
  · subst ht
    exact hword rfl
  · subst hf
    exact hword rfl
  · subst hn
    exact hword rfl
  · exact consumed_fail

/-- A comma or the end of a container.

**Proof sketch.** By cases on the innermost container. A comma ends an item or a member, and the
bracket closes the container; anything else fails. -/
lemma consumed_stepSeparator (h : Frame.BehindValue r.stack cs) (c : Char) :
    (r.stepSeparator c).Consumed (cs ++ [c]) := by
  unfold stepSeparator
  split
  · next done rest hstack =>
    split_ifs with hcomma hclose
    · subst hcomma
      rw [hstack] at h
      cases done with
      | nil => exact h.elim
      | cons v done =>
        obtain ⟨p, t, part, rfl, hp, ht, hpart⟩ := h
        show Frame.Opened r.stack _
        rw [hstack]
        refine ⟨p, t ++ (part ++ [',']), [], by simp, hp, ?_, blanks_nil⟩
        rw [List.reverse_cons]
        exact ht.append hpart
    · subst hclose
      exact consumed_closeArray hstack h
    · exact consumed_fail
  · next done name rest hstack =>
    split_ifs with hcomma hclose
    · subst hcomma
      rw [hstack] at h
      cases done with
      | nil => exact h.elim
      | cons e done =>
        obtain ⟨p, t, part, rfl, hp, ht, hpart⟩ := h
        show Frame.Named r.stack _
        rw [hstack]
        refine ⟨p, t ++ (part ++ [',']), [], by simp, hp, ?_, blanks_nil⟩
        rw [List.reverse_cons]
        exact ht.append hpart
    · subst hclose
      exact consumed_closeObject hstack h
    · exact consumed_fail
  · exact consumed_fail

/-- A string is complete.

**Proof sketch.** By whether the text is a name: a name stands in an object and waits for its colon,
and a value is delivered. -/
lemma consumed_endString {isName : Bool} {s : String} (hu : SpellsText s u)
    (h : if isName then Frame.Named r.stack q else Frame.Opened r.stack q) :
    (r.endString isName s).Consumed (q ++ u) := by
  cases isName with
  | false => exact consumed_deliver h hu
  | true =>
    obtain ⟨stack, room, mode⟩ := r
    match stack, h with
    | .members done _ :: rest, ⟨p, t, b, hq, hp, ht, hb⟩ =>
      exact ⟨p, t, b ++ u, by simp only [hq, List.append_assoc, List.cons_append], hp, ht,
        padded_of_blanks hb hu⟩

/-- Behind one more piece of a text the reader is between characters again.

**Proof sketch.** The pieces that have been read are those before and the new one, and feeding them is
feeding the new one last. -/
lemma consumedIn_piece {stack : List Frame} {isName : Bool} {ps : List Piece} {q : List Char}
    (hps : ∀ p ∈ ps, p.Proper) (hq : if isName then Frame.Named stack q else Frame.Opened stack q)
    {p : Piece} (hp : p.Proper) :
    ConsumedIn stack (.string isName ((StringState.feedAll ⟨[], none⟩ ps).feed p) .none)
      (q ++ '"' :: (ps.flatMap Piece.chars ++ p.chars)) := by
  refine ⟨q, ps ++ [p], [], by simp, ?_, ?_, rfl, hq⟩
  · intro p' hp'
    rcases List.mem_append.1 hp' with hp' | hp'
    · exact hps p' hp'
    · rw [List.mem_singleton.1 hp']
      exact hp
  · simp only [StringState.feedAll, List.foldl_append, List.foldl_cons, List.foldl_nil]

/-- A character within a string.

**Proof sketch.** By cases on where in the text the character stands. Between pieces it ends the
text, starts an escape, or is a piece by itself. Behind a backslash it is a short escape or starts
four digits, and the last digit makes a piece of all of them. After a piece the reader is between
pieces again. -/
lemma consumed_stepString {isName : Bool} {s : StringState} {e : Escape}
    (h : ConsumedIn r.stack (.string isName s e) cs) (c : Char) :
    (r.stepString isName s e c).Consumed (cs ++ [c]) := by
  obtain ⟨q, ps, w, rfl, hps, rfl, hw, hq⟩ := h
  have hassoc (w : List Char) : (q ++ '"' :: (ps.flatMap Piece.chars ++ w)) ++ [c] =
      q ++ '"' :: (ps.flatMap Piece.chars ++ (w ++ [c])) := by
    simp only [List.append_assoc, List.cons_append]
  rw [hassoc]
  cases e with
  | none =>
    obtain rfl := hw
    simp only [stepString]
    split_ifs with hquote hbackslash hcontrol
    · subst hquote
      have htext : (StringState.feedAll ⟨[], none⟩ ps).text = String.ofList (decoded ps) := by
        rw [StringState.text, (settle_feedAll ps []).1]
        rfl
      exact consumed_endString ⟨ps, hps, rfl, htext⟩ hq
    · subst hbackslash
      exact ⟨q, ps, ['\\'], rfl, hps, rfl, rfl, hq⟩
    · exact consumed_fail
    · have hproper : (Piece.plain c).Proper := ⟨hquote, hbackslash, not_lt.1 hcontrol⟩
      exact consumedIn_piece hps hq hproper
  | backslash =>
    obtain rfl := hw
    simp only [stepString]
    split_ifs with hu
    · subst hu
      exact ⟨q, ps, ['\\', 'u'], rfl, hps, rfl, ⟨[], rfl, rfl, by decide, List.forall_mem_nil _, rfl⟩,
        hq⟩
    · split
      · next d hd =>
        have hproper : (Piece.short c).Proper := by rw [Piece.Proper, hd, Option.isSome_some]
        have hfeed : (StringState.feedAll ⟨[], none⟩ ps).feed (.short c) =
            (StringState.feedAll ⟨[], none⟩ ps).push d := by
          rw [StringState.feed, hd, Option.getD_some]
        rw [← hfeed]
        exact consumedIn_piece hps hq hproper
      · exact consumed_fail
  | digits missing v =>
    obtain ⟨ds, rfl, hlength, hmissing, hhex, rfl⟩ := hw
    simp only [stepString]
    split
    · exact consumed_fail
    · next x hx =>
      have hhex' : ∀ d ∈ ds ++ [c], (Text.hexValue? d).isSome := by
        intro d hd
        rcases List.mem_append.1 hd with hd | hd
        · exact hhex d hd
        · rw [List.mem_singleton.1 hd, hx, Option.isSome_some]
      rw [← unitValue_append hx]
      split_ifs with hlast
      · have hfour : (ds ++ [c]).length = 4 := by
          rw [List.length_append, List.length_singleton]
          omega
        exact consumedIn_piece hps hq (p := .unit (ds ++ [c])) ⟨hfour, hhex'⟩
      · refine ⟨q, ps, '\\' :: 'u' :: (ds ++ [c]), rfl, hps, rfl, ?_, hq⟩
        refine ⟨ds ++ [c], rfl, ?_, by omega, hhex', rfl⟩
        rw [List.length_append, List.length_singleton]
        omega

/-- The modes within a token. -/
def inToken : Mode → Prop
  | .string .. | .numeral _ | .word .. => True
  | _ => False

/-- Behind a value the reader is not within a token. -/
lemma not_inToken_deliver (r : Reader) (v : Json) : ¬inToken (r.deliver v).mode := by
  unfold deliver
  split <;> exact id

/-- A blank between tokens.

**Proof sketch.** By what the reader waits for: the blank goes to the blanks that are there, and the
reader waits for the same. -/
lemma consumed_stepBlank (hm : ¬inToken r.mode) (h : r.Consumed cs) {c : Char}
    (hblank : isBlank c = true) : (r.stepBetween c).Consumed (cs ++ [c]) := by
  obtain ⟨stack, room, mode⟩ := r
  have hb : Blanks [c] := by
    intro d hd
    rwa [List.mem_singleton.1 hd]
  cases mode with
  | string | numeral | word => exact absurd trivial hm
  | finished v alone =>
    intro halone
    simp only [hblank, Bool.and_true] at halone
    exact Padded.append (h halone) hb
  | failed => exact trivial
  | value =>
    simp only [stepBetween, if_pos hblank]
    exact Frame.Opened.append h hb
  | firstItem =>
    simp only [stepBetween, if_pos hblank]
    exact ⟨h.1, h.2.append hb⟩
  | firstName =>
    simp only [stepBetween, if_pos hblank]
    exact ⟨h.1, h.2.append hb⟩
  | name =>
    simp only [stepBetween, if_pos hblank]
    exact Frame.Named.append h hb
  | colon =>
    simp only [stepBetween, if_pos hblank]
    exact Frame.BehindName.append h hb
  | separator =>
    simp only [stepBetween, if_pos hblank]
    exact Frame.BehindValue.append h hb

/-- A character outside of tokens.

**Proof sketch.** A blank changes nothing but the blanks that were read. Otherwise the mode says
what may stand there: a value, a name, a colon, or what follows a value. Each case is a lemma of its
own. -/
lemma consumed_stepBetween (hm : ¬inToken r.mode) (h : r.Consumed cs) (c : Char) :
    (r.stepBetween c).Consumed (cs ++ [c]) := by
  by_cases hblank : isBlank c = true
  · exact consumed_stepBlank hm h hblank
  obtain ⟨stack, room, mode⟩ := r
  have hquote {stack : List Frame} (h : Frame.Named stack cs) :
      ConsumedIn stack (.string true ⟨[], none⟩ .none) (cs ++ ['"']) :=
    ⟨cs, [], [], rfl, List.forall_mem_nil _, rfl, rfl, h⟩
  cases mode with
  | string | numeral | word => exact absurd trivial hm
  | finished v alone =>
    intro halone
    simp only [hblank, Bool.and_false] at halone
    cases halone
  | failed => exact trivial
  | value =>
    simp only [stepBetween, if_neg hblank]
    exact consumed_startValue h c
  | firstItem =>
    simp only [stepBetween, if_neg hblank]
    obtain ⟨⟨rest, hstack⟩, h⟩ := h
    split_ifs with hclose
    · subst hclose
      exact consumed_closeArray_first hstack h
    · exact consumed_startValue h c
  | firstName =>
    simp only [stepBetween, if_neg hblank]
    obtain ⟨⟨name, rest, hstack⟩, h⟩ := h
    split_ifs with hclose hq
    · subst hclose
      exact consumed_closeObject_first hstack h
    · subst hq
      exact hquote h
    · exact consumed_fail
  | name =>
    simp only [stepBetween, if_neg hblank]
    split_ifs with hq
    · subst hq
      exact hquote h
    · exact consumed_fail
  | colon =>
    simp only [stepBetween, if_neg hblank]
    split_ifs with hcolon
    · subst hcolon
      exact Frame.BehindName.opened h
    · exact consumed_fail
  | separator =>
    simp only [stepBetween, if_neg hblank]
    exact consumed_stepSeparator h c

/-- **What one character does** to the text that was consumed.

**Proof sketch.** Within a token the character continues the token, or ends it. A number, which may
end before the character, is delivered first; then the character is read outside of tokens. -/
theorem Consumed.step (h : r.Consumed cs) (hsound : r.Sound) (c : Char) :
    (r.step c).Consumed (cs ++ [c]) := by
  obtain ⟨stack, room, mode⟩ := r
  cases mode with
  | string isName s e => exact consumed_stepString h c
  | numeral s =>
    obtain ⟨q, rfl, hq⟩ := h
    simp only [Reader.step]
    split
    · next s' hs' =>
      refine ⟨q, ?_, hq⟩
      rw [NumeralState.chars_advance? hs', List.append_assoc]
    · split
      · next n hn =>
        have hspells : Spells (.num n) s.chars :=
          ⟨NumeralState.Sound.complete? hsound.mode hn, (NumeralState.chars_complete? hn).symm⟩
        exact consumed_stepBetween (not_inToken_deliver _ _)
          (consumed_deliver (r := ⟨stack, room, _⟩) hq hspells) c
      · exact consumed_fail
  | word rest v =>
    obtain ⟨q, w, rfl, hspells, hq⟩ := h
    cases rest with
    | nil =>
      rw [List.append_nil] at hspells
      exact consumed_stepBetween (not_inToken_deliver _ _)
        (consumed_deliver (r := ⟨stack, room, _⟩) hq hspells) c
    | cons d rest =>
      cases rest with
      | nil =>
        simp only [Reader.step]
        split_ifs with hc
        · subst hc
          rw [List.append_assoc]
          exact consumed_deliver (r := ⟨stack, room, _⟩) hq hspells
        · exact consumed_fail
      | cons d' rest =>
        simp only [Reader.step]
        split_ifs with hc
        · subst hc
          exact ⟨q, w ++ [c], by simp, by simpa using hspells, hq⟩
        · exact consumed_fail
  | value | firstItem | firstName | name | colon | separator | finished | failed =>
    exact consumed_stepBetween id h c

/-- What a whole text does to the text that was consumed. -/
theorem Consumed.run (h : r.Consumed cs) (hsound : r.Sound) (ds : List Char) :
    (r.run ds).Consumed (cs ++ ds) := by
  induction ds generalizing r cs with
  | nil => simpa using h
  | cons d ds ih =>
    have := ih (h.step hsound d) (hsound.step d)
    simpa using this

end Reader

/-- Digits end in a digit. -/
lemma IsDigits.exists_append {ds : List Char} (h : IsDigits ds) :
    ∃ front d, ds = front ++ [d] ∧ isDigit d = true := by
  obtain ⟨front, d, rfl⟩ := (List.eq_nil_or_concat' ds).resolve_left h.1
  exact ⟨front, d, rfl, h.2 d (by simp)⟩

/-- A well-formed literal ends in a digit.

**Proof sketch.** The last part of the literal that is there is its exponent, its fraction or its
whole part. In each case it consists of digits and is not empty. -/
lemma Numeral.WellFormed.exists_chars_append {n : Numeral} (hn : n.WellFormed) :
    ∃ front d, n.chars = front ++ [d] ∧ isDigit d = true := by
  -- the last part of the literal that is there
  obtain ⟨ds, hds, front, hchars⟩ : ∃ ds, IsDigits ds ∧ ds <:+ n.chars := by
    obtain ⟨negative, whole, fraction, exponent⟩ := n
    cases exponent with
    | some e =>
      have hdigits : e.digits <:+ e.chars := (List.suffix_append _ _).trans (List.suffix_cons _ _)
      exact ⟨e.digits, hn.exponent e rfl, hdigits.trans (List.suffix_append _ _)⟩
    | none =>
      rw [Numeral.chars, List.append_nil]
      cases fraction with
      | some ds =>
        exact ⟨ds, hn.fraction ds rfl, (List.suffix_cons _ _).trans (List.suffix_append _ _)⟩
      | none =>
        rw [List.append_nil]
        have hne : whole ≠ [] := by
          rcases hn.whole with h | ⟨d, rest, h, -⟩ <;> simp only at h <;> rw [h] <;>
            exact List.cons_ne_nil _ _
        exact ⟨whole, ⟨hne, hn.whole.isDigit⟩, List.suffix_append _ _⟩
  obtain ⟨front', d, rfl, hd⟩ := hds.exists_append
  exact ⟨front ++ front', d, by rw [← hchars, List.append_assoc], hd⟩

/-- A text that spells a value does not end in a blank.

**Proof sketch.** By cases on the value. The last character is a letter, a digit, a quote or a
bracket. -/
lemma Spells.exists_append {v : Json} {u : List Char} (h : Spells v u) :
    ∃ front c, u = front ++ [c] ∧ isBlank c = false := by
  cases v with
  | null => exact ⟨['n', 'u', 'l'], 'l', h, by decide⟩
  | bool b =>
    cases b with
    | true => exact ⟨['t', 'r', 'u'], 'e', h, by decide⟩
    | false => exact ⟨['f', 'a', 'l', 's'], 'e', h, by decide⟩
  | num n =>
    obtain ⟨hn, rfl⟩ := h
    obtain ⟨front, d, hchars, hd⟩ := hn.exists_chars_append
    exact ⟨front, d, hchars, (Reader.isBlank_of_isDigit hd).1⟩
  | str s =>
    obtain ⟨ps, -, rfl, -⟩ := h
    exact ⟨'"' :: ps.flatMap Piece.chars, '"', rfl, by decide⟩
  | arr items =>
    obtain ⟨body, rfl, -⟩ := h
    exact ⟨'[' :: body, ']', rfl, by decide⟩
  | obj members =>
    obtain ⟨body, rfl, -⟩ := h
    exact ⟨'\x7b' :: body, '\x7d', rfl, by decide⟩

/-- The blank that ends the last number is no part of the value.

**Proof sketch.** The text behind the value is not empty, because the value does not end in a blank.
So the last blank belongs to it and can be taken away. -/
lemma isDocument_of_append_blank {v : Json} {text : List Char} (h : IsDocument v (text ++ [' '])) :
    IsDocument v text := by
  obtain ⟨b, u, b', htext, hb, hu, hb'⟩ := h
  rcases List.eq_nil_or_concat' b' with rfl | ⟨front, c, rfl⟩
  · obtain ⟨front, c, rfl, hc⟩ := hu.exists_append
    rw [List.append_nil, ← List.append_assoc] at htext
    obtain ⟨-, hsame⟩ := List.append_inj' htext rfl
    obtain rfl : ' ' = c := by simpa using hsame
    exact absurd hc (by decide)
  · rw [← List.append_assoc, ← List.append_assoc] at htext
    obtain ⟨rfl, -⟩ := List.append_inj' htext rfl
    exact ⟨b, u, front, by rw [List.append_assoc], hb, hu, fun d hd => hb' d (by simp [hd])⟩

/-- **What the reader accepts.** A text is read as a value exactly if it is a document of the value
and its containers are not nested too deeply.

**Proof sketch.** In one direction, what the reader has consumed is kept track of by
`Reader.Consumed`, step by step, and at the end it is a document. The blank that was put behind the
text is taken away again. In the other direction, `readWhole_of_isDocument` applies. -/
theorem readWhole_eq_some_iff {text : List Char} {v : Json} :
    readWhole text = some v ↔ IsDocument v text ∧ v.depth ≤ maxDepth := by
  constructor
  · intro h
    refine ⟨isDocument_of_append_blank ?_, (fits_of_readWhole h).depth_le⟩
    have hscan : scan text = .finished v true := by
      unfold readWhole at h
      split at h
      · next hw =>
        cases h
        exact hw
      · cases h
    have hinit : Reader.init.Consumed [] := blanks_nil
    have hconsumed : (Reader.init.run (text ++ [' '])).Consumed ([] ++ (text ++ [' '])) :=
      hinit.run ⟨rfl, trivial⟩ _
    rw [Reader.run_append] at hconsumed
    have hmode : ((Reader.init.run text).run [' ']).mode = .finished v true := hscan
    rw [Reader.Consumed, hmode] at hconsumed
    exact hconsumed rfl
  · rintro ⟨h, hd⟩
    exact readWhole_of_isDocument h hd

end SchemaKit.Json
