import Mathlib.Data.List.Basic
import SchemaKit.Proofs.Json.Reading

/-!
# The grammar of JSON texts

Which texts spell a value is said without the reader: blanks may stand around every token, a string
is a sequence of pieces, a number is a well-formed literal, and the items and members of containers
are separated by commas. Where there is room for its containers, the reader delivers every value
from every text that spells it.

## Main definitions

* `SchemaKit.Json.Piece`, `SchemaKit.Json.decoded` — how the characters of a string are written, and
  what a sequence of pieces stands for.
* `SchemaKit.Json.Spells` — a text spells a value, without blanks around it.
* `SchemaKit.Json.IsDocument` — a text spells a value, and holds nothing else but blanks.

## Main results

* `SchemaKit.Json.settle_feedAll` — pieces that are taken one after the other give what they stand
  for.
* `SchemaKit.Json.Reader.run_spells` — a text that spells a value delivers it.
* `SchemaKit.Json.readWhole_of_isDocument` — a document is read as its value.
-/

namespace SchemaKit.Json

/-! ## Strings -/

/-- A piece of a string as it is written: a character, a backslash and a letter, or the hexadecimal
digits of sixteen bits. -/
inductive Piece where
  | plain (c : Char)
  | short (letter : Char)
  | unit (digits : List Char)

namespace Piece

/-- The characters of a piece. -/
def chars : Piece → List Char
  | plain c => [c]
  | short l => ['\\', l]
  | unit ds => '\\' :: 'u' :: ds

/-- Whether a piece may stand in a string. -/
def Proper : Piece → Prop
  | plain c => c ≠ '"' ∧ c ≠ '\\' ∧ 32 ≤ c.toNat
  | short l => (unescape? l).isSome
  | unit ds => ds.length = 4 ∧ ∀ d ∈ ds, (Text.hexValue? d).isSome

end Piece

/-- The number that hexadecimal digits denote. -/
def unitValue (ds : List Char) : Nat := ds.foldl (fun u d => 16 * u + (Text.hexValue? d).getD 0) 0

/-- The first half of a surrogate pair. -/
def IsHigh (u : Nat) : Prop := 0xD800 ≤ u ∧ u < 0xDC00

/-- The second half of a surrogate pair. -/
def IsLow (u : Nat) : Prop := 0xDC00 ≤ u ∧ u < 0xE000

instance (u : Nat) : Decidable (IsHigh u) := inferInstanceAs (Decidable (_ ∧ _))

instance (u : Nat) : Decidable (IsLow u) := inferInstanceAs (Decidable (_ ∧ _))

/-- The character of a surrogate pair. -/
def paired (h l : Nat) : Char := Char.ofNat (0x10000 + (h - 0xD800) * 0x400 + (l - 0xDC00))

/-- The character of sixteen bits by themselves: half a pair stands for no character. -/
def single (u : Nat) : Char := if IsHigh u ∨ IsLow u then Text.replacement else Char.ofNat u

/-- The characters that pieces stand for. -/
def decoded : List Piece → List Char
  | [] => []
  | .plain c :: rest => c :: decoded rest
  | .short l :: rest => (unescape? l).getD l :: decoded rest
  | .unit ds :: .unit es :: rest =>
    if IsHigh (unitValue ds) ∧ IsLow (unitValue es) then
      paired (unitValue ds) (unitValue es) :: decoded rest
    else single (unitValue ds) :: decoded (.unit es :: rest)
  | .unit ds :: rest => single (unitValue ds) :: decoded rest

/-- A text spells a string: quotes around pieces that stand for it. -/
def SpellsText (s : String) (u : List Char) : Prop :=
  ∃ ps : List Piece, (∀ p ∈ ps, p.Proper) ∧ u = '"' :: (ps.flatMap Piece.chars ++ ['"']) ∧
    s = String.ofList (decoded ps)

/-! ## Values -/

/-- Nothing but blanks. -/
def Blanks (cs : List Char) : Prop := ∀ c ∈ cs, isBlank c = true

/-- No characters are blanks. -/
lemma blanks_nil : Blanks [] := List.forall_mem_nil _

/-- A text with blanks around it. -/
def Padded (P : List Char → Prop) (cs : List Char) : Prop :=
  ∃ b u b', cs = b ++ (u ++ b') ∧ Blanks b ∧ P u ∧ Blanks b'

/-- A text spells a value. There are no blanks around the value, but there may be some around the
tokens inside of it. -/
def Spells : Json → List Char → Prop
  | .null, u => u = ['n', 'u', 'l', 'l']
  | .bool true, u => u = ['t', 'r', 'u', 'e']
  | .bool false, u => u = ['f', 'a', 'l', 's', 'e']
  | .num n, u => n.WellFormed ∧ u = n.chars
  | .str s, u => SpellsText s u
  | .arr items, u => ∃ body, u = '[' :: (body ++ [']']) ∧ spellsItems items body
  | .obj members, u => ∃ body, u = '\x7b' :: (body ++ ['\x7d']) ∧ spellsMembers members body
where
  /-- Items with commas between them. -/
  spellsItems : List Json → List Char → Prop
    | [], body => Blanks body
    | [v], body => Padded (Spells v) body
    | v :: w :: rest, body =>
      ∃ part more, body = part ++ ',' :: more ∧ Padded (Spells v) part ∧ spellsItems (w :: rest) more
  /-- Members with commas between them, each of them a name, a colon and a value. -/
  spellsMembers : List (String × Json) → List Char → Prop
    | [], body => Blanks body
    | [(k, v)], body =>
      ∃ name value, body = name ++ ':' :: value ∧ Padded (SpellsText k) name ∧ Padded (Spells v) value
    | (k, v) :: m :: rest, body =>
      ∃ name value more, body = (name ++ ':' :: value) ++ ',' :: more ∧ Padded (SpellsText k) name ∧
        Padded (Spells v) value ∧ spellsMembers (m :: rest) more

/-- A text is a document of a value: the value with nothing but blanks around it. -/
def IsDocument (v : Json) (text : List Char) : Prop := Padded (Spells v) text

/-! ## Strings piece by piece -/

namespace StringState

/-- Takes a piece. -/
def feed (s : StringState) : Piece → StringState
  | .plain c => s.push c
  | .short l => s.push ((unescape? l).getD l)
  | .unit ds => s.pushUnit (unitValue ds)

/-- Takes pieces one after the other. -/
def feedAll (s : StringState) (ps : List Piece) : StringState := ps.foldl feed s

end StringState

/-- Sixteen bits that are not the first half of a pair stand for themselves. -/
lemma decoded_unit {ds : List Char} (h : ¬IsHigh (unitValue ds)) (rest : List Piece) :
    decoded (.unit ds :: rest) = single (unitValue ds) :: decoded rest := by
  rcases rest with _ | ⟨_ | _ | _, _⟩ <;> simp [decoded, h]

/-- The first half of a pair stands for itself in front of anything but a second half. -/
lemma decoded_unit_unit {ds es : List Char} (hds : IsHigh (unitValue ds)) (rest : List Piece) :
    decoded (.unit ds :: .unit es :: rest) =
      if IsLow (unitValue es) then paired (unitValue ds) (unitValue es) :: decoded rest
      else Text.replacement :: decoded (.unit es :: rest) := by
  simp [decoded, single, hds]

namespace StringState

variable {chars : List Char} {u : Nat}

/-- A second half behind a first half. -/
lemma pushUnit_low (hu : IsLow u) (h : Nat) :
    StringState.pushUnit ⟨chars, some h⟩ u = ⟨paired h u :: chars, none⟩ := by
  simp [pushUnit, hu.1, hu.2, paired]

/-- A first half, whatever is in front of it. -/
lemma pushUnit_high (hu : IsHigh u) (s : StringState) : s.pushUnit u = ⟨s.settle, some u⟩ := by
  have hlow : ¬0xDC00 ≤ u := not_le.2 hu.2
  simp [pushUnit, hlow, hu.1, hu.2]

/-- Sixteen bits that are no first half, and do not complete a pair. -/
lemma pushUnit_single (hu : ¬IsHigh u) {s : StringState} (hs : IsLow u → s.high = none) :
    s.pushUnit u = s.push (single u) := by
  by_cases hlow : IsLow u
  · simp [pushUnit, hlow.1, hlow.2, hs hlow, single, hlow]
  · have h₁ : ¬(0xDC00 ≤ u ∧ u < 0xE000) := hlow
    have h₂ : ¬(0xD800 ≤ u ∧ u < 0xDC00) := hu
    simp only [pushUnit, Bool.and_eq_true, decide_eq_true_eq, h₁, h₂, if_false, single, hu, hlow,
      or_self]

end StringState

/-- **Pieces that are taken one after the other give what they stand for.** Behind the first half of
a pair this is what the half and the pieces stand for together.

**Proof sketch.** Induction on the pieces. What the first half of a pair becomes is decided by the
next piece, so the statement is about both states, with and without such a half. -/
lemma settle_feedAll (ps : List Piece) (chars : List Char) :
    (StringState.feedAll ⟨chars, none⟩ ps).settle.reverse = chars.reverse ++ decoded ps ∧
      ∀ ds, IsHigh (unitValue ds) →
        (StringState.feedAll ⟨chars, some (unitValue ds)⟩ ps).settle.reverse =
        chars.reverse ++ decoded (.unit ds :: ps) := by
  induction ps generalizing chars with
  | nil =>
    refine ⟨by simp [StringState.feedAll, StringState.settle, decoded], fun ds hds => ?_⟩
    simp [StringState.feedAll, StringState.settle, decoded, single, hds]
  | cons p rest ih =>
    -- a single character settles the half in front of it
    have hpush {c : Char} (hfeed : ∀ s, StringState.feed s p = s.push c)
        (hdecoded : decoded (p :: rest) = c :: decoded rest) (high : Option Nat) :
        (StringState.feedAll ⟨chars, high⟩ (p :: rest)).settle.reverse =
          chars.reverse ++ ((high.map fun _ => Text.replacement).toList ++ decoded (p :: rest)) := by
      rw [StringState.feedAll, List.foldl_cons, hfeed, ← StringState.feedAll, StringState.push,
        (ih _).1, hdecoded]
      cases high <;> simp [StringState.settle]
    cases p with
    | plain c =>
      have := hpush (c := c) (fun _ => rfl) rfl
      refine ⟨this none, fun ds hds => (this (some _)).trans ?_⟩
      simp [decoded, single, hds]
    | short l =>
      have := hpush (c := (unescape? l).getD l) (fun _ => rfl) rfl
      refine ⟨this none, fun ds hds => (this (some _)).trans ?_⟩
      simp [decoded, single, hds]
    | unit es =>
      rw [StringState.feedAll, List.foldl_cons, ← StringState.feedAll]
      by_cases hhigh : IsHigh (unitValue es)
      · have hlow : ¬IsLow (unitValue es) := fun h => absurd hhigh.2 (not_lt.2 h.1)
        have hfeed (s : StringState) : s.feed (.unit es) = ⟨s.settle, some (unitValue es)⟩ :=
          StringState.pushUnit_high hhigh s
        refine ⟨?_, fun ds hds => ?_⟩
        · rw [hfeed]
          exact (ih chars).2 es hhigh
        · rw [StringState.feedAll, List.foldl_cons, hfeed, ← StringState.feedAll,
            decoded_unit_unit hds, if_neg hlow]
          refine ((ih (Text.replacement :: chars)).2 es hhigh).trans ?_
          simp
      · refine ⟨?_, fun ds hds => ?_⟩
        · have hfeed : StringState.feed ⟨chars, none⟩ (.unit es) =
              ⟨single (unitValue es) :: chars, none⟩ :=
            StringState.pushUnit_single hhigh fun _ => rfl
          rw [hfeed, (ih _).1, decoded_unit hhigh]
          simp
        · rw [decoded_unit_unit hds, StringState.feedAll, List.foldl_cons, ← StringState.feedAll]
          by_cases hlow : IsLow (unitValue es)
          · have hfeed : StringState.feed ⟨chars, some (unitValue ds)⟩ (.unit es) =
                ⟨paired (unitValue ds) (unitValue es) :: chars, none⟩ :=
              StringState.pushUnit_low hlow _
            rw [hfeed, (ih _).1, if_pos hlow]
            simp
          · have hfeed : StringState.feed ⟨chars, some (unitValue ds)⟩ (.unit es) =
                ⟨single (unitValue es) :: Text.replacement :: chars, none⟩ :=
              StringState.pushUnit_single hhigh fun h => absurd h hlow
            rw [hfeed, (ih _).1, if_neg hlow, decoded_unit hhigh]
            simp

/-! ## Reading what is spelled -/

/-- A blank cannot continue a number. -/
lemma endsNumber_of_isBlank {c : Char} (h : isBlank c = true) : endsNumber c = true := by
  simp only [isBlank, Bool.or_eq_true, beq_iff_eq] at h
  rcases h with ((rfl | rfl) | rfl) | rfl <;> decide

/-- Blanks in front of a text that cannot continue a number. -/
lemma endsNumber_blanks {b : List Char} (hb : Blanks b) {tail : List Char} (ht : EndsNumber tail) :
    EndsNumber (b ++ tail) := by
  cases b with
  | nil => exact ht
  | cons c b => exact endsNumber_cons (endsNumber_of_isBlank (hb c List.mem_cons_self))

namespace Reader

section

variable (stack : List Frame) (room : Nat)

/-- A piece is taken.

**Proof sketch.** By the kind of piece: a character that stands for itself, a short escape, or the
four digits of a code unit. In each case the characters are read one by one. -/
lemma run_piece (isName : Bool) (s : StringState) {p : Piece} (hp : p.Proper) :
    (Reader.mk stack room (.string isName s .none)).run p.chars =
      ⟨stack, room, .string isName (s.feed p) .none⟩ := by
  cases p with
  | plain c =>
    obtain ⟨hquote, hbackslash, hcontrol⟩ := hp
    simp [Piece.chars, step, stepString, StringState.feed, hquote, hbackslash, hcontrol]
  | short l =>
    obtain ⟨c, hc⟩ := Option.isSome_iff_exists.1 hp
    have hu : l ≠ 'u' := by
      rintro rfl
      have hnone : unescape? 'u' = none := by decide
      rw [hnone] at hc
      cases hc
    simp [Piece.chars, step, stepString, StringState.feed, hu, hc]
  | unit ds =>
    obtain ⟨hlength, hhex⟩ := hp
    obtain ⟨a, b, c, d, rfl⟩ := List.length_eq_four.1 hlength
    simp only [List.forall_mem_cons, Option.isSome_iff_exists] at hhex
    obtain ⟨⟨x, hx⟩, ⟨y, hy⟩, ⟨z, hz⟩, ⟨w, hw⟩, -⟩ := hhex
    simp [Piece.chars, step, stepString, StringState.feed, unitValue, hx, hy, hz, hw]

/-- Pieces are taken one after the other. -/
lemma run_pieces (isName : Bool) (s : StringState) {ps : List Piece} (hps : ∀ p ∈ ps, p.Proper) :
    (Reader.mk stack room (.string isName s .none)).run (ps.flatMap Piece.chars) =
      ⟨stack, room, .string isName (s.feedAll ps) .none⟩ := by
  induction ps generalizing s with
  | nil => rfl
  | cons p rest ih =>
    rw [List.forall_mem_cons] at hps
    rw [List.flatMap_cons, run_append, run_piece stack room isName s hps.1, ih _ hps.2]
    rfl

/-- **Reading a string**: behind the opening quote, a text that spells a string completes it.

**Proof sketch.** Reading all pieces feeds them to the state one after the other, by `run_pieces`.
What is fed is settled at the closing quote, and then it is the decoded text. -/
lemma run_spellsText {s : String} {u : List Char} (hu : SpellsText s u) (isName : Bool)
    (tail : List Char) :
    ∃ body, u = '"' :: body ∧
      (Reader.mk stack room (.string isName ⟨[], none⟩ .none)).run (body ++ tail) =
        ((Reader.mk stack room .value).endString isName s).run tail := by
  obtain ⟨ps, hps, rfl, rfl⟩ := hu
  refine ⟨_, rfl, ?_⟩
  have htext : (StringState.feedAll ⟨[], none⟩ ps).text = String.ofList (decoded ps) := by
    rw [StringState.text, (settle_feedAll ps []).1]
    rfl
  rw [List.append_assoc, run_append, run_pieces stack room isName _ hps, List.singleton_append,
    run_cons]
  simp only [step, stepString, if_true, htext]
  congr 1

/-- Blanks between tokens change nothing. -/
lemma run_blanks {m : Mode} (hm : isBetween m) {b : List Char} (hb : Blanks b) (tail : List Char) :
    (Reader.mk stack room m).run (b ++ tail) = (Reader.mk stack room m).run tail := by
  induction b with
  | nil => rfl
  | cons c b ih =>
    rw [Blanks, List.forall_mem_cons] at hb
    rw [List.cons_append, run_cons, step_blank stack room hm hb.1, ih hb.2]

/-- Blanks behind a value change nothing.

**Proof sketch.** Inside a container the reader waits for a separator, where blanks are skipped.
Behind the outermost value it is finished, and a blank leaves it finished: induction on the blanks. -/
lemma run_deliver_blanks (r : Reader) (v : Json) {b : List Char} (hb : Blanks b) (tail : List Char) :
    (r.deliver v).run (b ++ tail) = (r.deliver v).run tail := by
  obtain ⟨stack, room, m⟩ := r
  rcases stack with _ | ⟨done | ⟨done, name⟩, rest⟩
  · induction b with
    | nil => rfl
    | cons c b ih =>
      rw [Blanks, List.forall_mem_cons] at hb
      rw [List.cons_append, run_cons]
      have hstep : (Reader.deliver ⟨[], room, m⟩ v).step c = Reader.deliver ⟨[], room, m⟩ v := by
        simp [deliver, step, stepBetween, hb.1]
      rw [hstep, ih hb.2]
  · exact run_blanks _ _ (by trivial) hb tail
  · exact run_blanks _ _ (by trivial) hb tail

end

/-- Texts that spell a value deliver it, wherever there is room for it. -/
def Delivers (v : Json) : Prop :=
  ∀ (stack : List Frame) (room : Nat) (m : Mode) (u tail : List Char), Spells v u → v.depth ≤ room →
    startsValue m → EndsNumber tail →
    (Reader.mk stack room m).run (u ++ tail) = ((Reader.mk stack room .value).deliver v).run tail

section

variable {stack : List Frame} {room : Nat} {m : Mode}

/-- A value with blanks around it.

**Proof sketch.** The blanks in front are skipped between values, the value is delivered by
assumption, and the blanks behind it change nothing by `run_deliver_blanks`. -/
lemma Delivers.run_padded {v : Json} (h : Delivers v) {part : List Char}
    (hpart : Padded (Spells v) part)
    (hd : v.depth ≤ room) (hm : startsValue m) {tail : List Char} (ht : EndsNumber tail) :
    (Reader.mk stack room m).run (part ++ tail) =
      ((Reader.mk stack room .value).deliver v).run tail := by
  have hbetween : isBetween m := by
    cases m with
    | value | firstItem => trivial
    | _ => exact hm.elim
  obtain ⟨b, u, b', rfl, hb, hu, hb'⟩ := hpart
  rw [List.append_assoc, run_blanks stack room hbetween hb, List.append_assoc,
    h stack room m u (b' ++ tail) hu hd hm (endsNumber_blanks hb' ht), run_deliver_blanks _ v hb']

/-- A name with blanks around it leads to the value of the member.

**Proof sketch.** The blanks in front are skipped, the opening quote starts a name, and
`run_spellsText` reads it. The blanks behind the name are skipped before the colon is met. -/
lemma run_paddedName (hm : startsName m) (done : List (String × Json)) (old : String) {k : String}
    {name : List Char} (hname : Padded (SpellsText k) name) (tail : List Char) :
    (Reader.mk (.members done old :: stack) room m).run (name ++ ':' :: tail) =
      (Reader.mk (.members done k :: stack) room .value).run tail := by
  have hbetween : isBetween m := by
    cases m with
    | firstName | name => trivial
    | _ => exact hm.elim
  have hquote : (Reader.mk (.members done old :: stack) room m).step '"' =
      ⟨.members done old :: stack, room, .string true ⟨[], none⟩ .none⟩ := by
    cases m with
    | firstName | name => rfl
    | _ => exact hm.elim
  obtain ⟨b, u, b', rfl, hb, hu, hb'⟩ := hname
  obtain ⟨body, rfl, hbody⟩ :=
    run_spellsText (.members done old :: stack) room hu true (b' ++ ':' :: tail)
  rw [List.append_assoc, run_blanks _ _ hbetween hb, List.append_assoc, List.cons_append, run_cons,
    hquote, hbody]
  exact run_blanks _ _ (by trivial) hb' _

/-- A comma, and the end of a container, cannot continue a number. -/
lemma endsNumber_mark {c : Char} (hc : c = ',' ∨ c = ']' ∨ c = '\x7d') (tail : List Char) :
    EndsNumber (c :: tail) := by
  rcases hc with rfl | rfl | rfl <;> exact endsNumber_cons (by decide)

/-- Items with commas between them, up to the end of the array.

**Proof sketch.** Induction on the items. The first one is delivered by `Delivers.run_padded`. What
follows is a comma, which leads to the next item, or the closing bracket, which delivers the array. -/
lemma run_spellsItems {items : List Json} (hne : items ≠ []) (hread : ∀ v ∈ items, Delivers v)
    (hd : ∀ v ∈ items, v.depth ≤ room) (hm : startsValue m) {body : List Char}
    (hbody : Spells.spellsItems items body) (done : List Json) (tail : List Char) :
    (Reader.mk (.items done :: stack) room m).run (body ++ ']' :: tail) =
      ((Reader.mk stack (room + 1) .value).deliver (.arr (done.reverse ++ items))).run tail := by
  induction items generalizing done m body with
  | nil => exact absurd rfl hne
  | cons v rest ih =>
    rw [List.forall_mem_cons] at hread hd
    cases rest with
    | nil =>
      rw [hread.1.run_padded hbody hd.1 hm (endsNumber_mark (by simp) tail), run_cons]
      have hclose : ((Reader.mk (.items done :: stack) room .value).deliver v).step ']' =
          (Reader.mk stack (room + 1) .value).deliver (.arr (v :: done).reverse) := rfl
      rw [hclose, List.reverse_cons]
    | cons w rest =>
      obtain ⟨part, more, rfl, hpart, hmore⟩ := hbody
      rw [List.append_assoc, List.cons_append,
        hread.1.run_padded hpart hd.1 hm (endsNumber_mark (by simp) _), run_cons]
      have hnext : ((Reader.mk (.items done :: stack) room .value).deliver v).step ',' =
          ⟨.items (v :: done) :: stack, room, .value⟩ := rfl
      rw [hnext, ih (List.cons_ne_nil _ _) hread.2 hd.2 (m := .value) trivial hmore,
        List.reverse_cons, List.append_assoc]
      rfl

/-- Members with commas between them, up to the end of the object.

**Proof sketch.** Induction on the members, as `run_spellsItems`, with `run_paddedName` in front of
every value. -/
lemma run_spellsMembers {members : List (String × Json)} (hne : members ≠ [])
    (hread : ∀ e ∈ members, Delivers e.2) (hd : ∀ e ∈ members, e.2.depth ≤ room) (hm : startsName m)
    {body : List Char} (hbody : Spells.spellsMembers members body)
    (done : List (String × Json)) (old : String) (tail : List Char) :
    (Reader.mk (.members done old :: stack) room m).run (body ++ '\x7d' :: tail) =
      ((Reader.mk stack (room + 1) .value).deliver (.obj (done.reverse ++ members))).run tail := by
  induction members generalizing done old m body with
  | nil => exact absurd rfl hne
  | cons e rest ih =>
    obtain ⟨k, v⟩ := e
    rw [List.forall_mem_cons] at hread hd
    cases rest with
    | nil =>
      obtain ⟨name, value, rfl, hname, hvalue⟩ := hbody
      rw [List.append_assoc, List.cons_append, run_paddedName hm done old hname,
        hread.1.run_padded hvalue hd.1 (m := .value) trivial (endsNumber_mark (by simp) tail),
        run_cons]
      have hclose : ((Reader.mk (.members done k :: stack) room .value).deliver v).step '\x7d' =
          (Reader.mk stack (room + 1) .value).deliver (.obj ((k, v) :: done).reverse) := rfl
      rw [hclose, List.reverse_cons]
    | cons e' rest =>
      obtain ⟨name, value, more, rfl, hname, hvalue, hmore⟩ := hbody
      rw [List.append_assoc, List.append_assoc, List.cons_append, run_paddedName hm done old hname,
        List.cons_append,
        hread.1.run_padded hvalue hd.1 (m := .value) trivial (endsNumber_mark (by simp) _),
        run_cons]
      have hnext : ((Reader.mk (.members done k :: stack) room .value).deliver v).step ',' =
          ⟨.members ((k, v) :: done) k :: stack, room, .name⟩ := rfl
      rw [hnext, ih (List.cons_ne_nil _ _) hread.2 hd.2 (m := .name) trivial hmore, List.reverse_cons,
        List.append_assoc]
      rfl

end

/-- **Reading a value** delivers it, from every text that spells it.

**Proof sketch.** Induction on the value. Words, numbers and strings are read to their end;
containers are read item by item and member by member, and closed by their bracket. -/
theorem run_spells (v : Json) : Delivers v := by
  induction v using Json.induction with
  | null =>
    rintro stack room m _ tail rfl - hm -
    rw [List.cons_append, run_cons, step_startValue stack room hm (by decide) (by decide)]
    rfl
  | bool b =>
    cases b with
    | true =>
      rintro stack room m _ tail rfl - hm -
      rw [List.cons_append, run_cons, step_startValue stack room hm (by decide) (by decide)]
      rfl
    | false =>
      rintro stack room m _ tail rfl - hm -
      rw [List.cons_append, run_cons, step_startValue stack room hm (by decide) (by decide)]
      rfl
  | num n =>
    rintro stack room m _ tail ⟨hn, rfl⟩ - hm ht
    exact run_numeral stack room hm hn ht
  | str s =>
    rintro stack room m u tail hu - hm -
    obtain ⟨body, rfl, hbody⟩ := run_spellsText stack room hu false tail
    rw [List.cons_append, run_cons, step_startValue stack room hm (by decide) (by decide)]
    exact hbody
  | arr items ih =>
    rintro stack room m _ tail ⟨body, rfl, hbody⟩ hd hm -
    obtain ⟨room, rfl⟩ : ∃ k, room = k + 1 := ⟨room - 1, by rw [depth] at hd; omega⟩
    have hdepth : ∀ v ∈ items, v.depth ≤ room := depthItems_le_iff.1 (Nat.le_of_succ_le_succ hd)
    rw [List.cons_append, run_cons, step_openArray stack room hm, List.append_assoc,
      List.singleton_append]
    cases items with
    | nil =>
      rw [run_blanks _ _ (by trivial) hbody]
      rfl
    | cons v rest =>
      exact run_spellsItems (List.cons_ne_nil _ _) ih hdepth (m := .firstItem) trivial hbody [] tail
  | obj members ih =>
    rintro stack room m _ tail ⟨body, rfl, hbody⟩ hd hm -
    obtain ⟨room, rfl⟩ : ∃ k, room = k + 1 := ⟨room - 1, by rw [depth] at hd; omega⟩
    have hdepth : ∀ e ∈ members, e.2.depth ≤ room := depthMembers_le_iff.1 (Nat.le_of_succ_le_succ hd)
    rw [List.cons_append, run_cons, step_openObject stack room hm, List.append_assoc,
      List.singleton_append]
    cases members with
    | nil =>
      rw [run_blanks _ _ (by trivial) hbody]
      rfl
    | cons e rest =>
      exact run_spellsMembers (List.cons_ne_nil _ _) ih hdepth (m := .firstName) trivial
        hbody [] "" tail

end Reader

/-- **A document is read as its value**, if its containers are not nested too deeply. -/
theorem readWhole_of_isDocument {v : Json} {text : List Char} (h : IsDocument v text)
    (hd : v.depth ≤ maxDepth) : readWhole text = some v := by
  have hscan : scan text = .finished v true :=
    scan_of_run ((Reader.run_spells v).run_padded h hd (m := .value) trivial
      (endsNumber_cons (by decide)))
  rw [readWhole, hscan]

end SchemaKit.Json
