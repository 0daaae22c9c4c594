import Mathlib.Tactic.Common
import Mathlib.Tactic.IntervalCases
import Mathlib.Tactic.Linarith
import SchemaKit.Json.Reader

/-!
# Number literals and the reader

A numeral is well formed if its parts are those of a number literal: digits where digits are asked
for, and no zero in front of further digits. The reader takes the text of a well-formed numeral for
the numeral itself, provided that a character follows that cannot continue a number.

## Main definitions

* `SchemaKit.Json.Numeral.WellFormed` — the parts of a numeral make up a number literal.
* `SchemaKit.Json.EndsNumber` — a text starts with a character that cannot continue a number.

## Main results

* `SchemaKit.Decimal.value_ofNat` — the digits of a number denote the number.
* `SchemaKit.Json.Numeral.int?_ofInt` — the literal of an integer denotes the integer.
* `SchemaKit.Json.Reader.run_numeral` — reading the text of a numeral delivers the numeral.
-/

namespace SchemaKit

/-! ## Digits -/

namespace Decimal

open Json (isDigit)

/-- The value of the character of a digit is the digit. -/
lemma digitValue_digitChar {d : Nat} (h : d < 10) : digitValue (digitChar d) = d := by
  interval_cases d <;> rfl

/-- The character of a digit is one that the reader takes for a digit. -/
lemma isDigit_digitChar {d : Nat} (h : d < 10) : isDigit (digitChar d) = true := by
  interval_cases d <;> rfl

/-- Only zero is written with the character of zero. -/
lemma digitChar_ne_zero {d : Nat} (h : d < 10) (h0 : d ≠ 0) : digitChar d ≠ '0' := by
  interval_cases d
  · exact absurd rfl h0
  all_goals decide

/-- Without its last digit a number is below the next smaller power of ten. -/
lemma div_ten_lt {fuel n : Nat} (h : n < 10 ^ (fuel + 1)) : n / 10 < 10 ^ fuel := by
  rw [pow_succ] at h
  omega

/-- **Reading back accumulated digits**: with enough fuel, the digits of `n` in front of `acc` lead
a left-to-right evaluation from zero to `n` before it meets `acc`.

**Proof sketch.** Induction on the fuel. The last digit goes in front of `acc`, and the remaining
number is below the next smaller power of ten. -/
lemma foldl_digitsAcc (fuel n : Nat) (acc : List Char) (h : n < 10 ^ fuel) :
    (digitsAcc fuel n acc).foldl (fun m c => 10 * m + digitValue c) 0 =
      acc.foldl (fun m c => 10 * m + digitValue c) n := by
  induction fuel generalizing n acc with
  | zero =>
    obtain rfl : n = 0 := by simpa using h
    rfl
  | succ fuel ih =>
    rw [digitsAcc]
    split
    · next hn => simp [digitValue_digitChar hn]
    · next hn =>
      rw [ih _ _ (div_ten_lt h), List.foldl_cons, digitValue_digitChar (Nat.mod_lt _ (by omega))]
      congr 1
      omega

/-- The fuel of `ofNat` covers every digit. -/
lemma lt_ten_pow_log2 (n : Nat) : n < 10 ^ (Nat.log2 n + 1) :=
  calc n < 2 ^ (Nat.log2 n + 1) := Nat.lt_log2_self
    _ ≤ 10 ^ (Nat.log2 n + 1) := Nat.pow_le_pow_left (by omega) _

/-- **The digits of a number denote the number.** -/
theorem value_ofNat (n : Nat) : value (ofNat n) = n := by
  rw [value, ofNat, foldl_digitsAcc _ _ _ (lt_ten_pow_log2 n)]
  rfl

/-- Accumulated digits are digits.

**Proof sketch.** Induction on the fuel: every step puts one digit in front. -/
lemma isDigit_of_mem_digitsAcc (fuel n : Nat) (acc : List Char)
    (hacc : ∀ c ∈ acc, isDigit c = true) : ∀ c ∈ digitsAcc fuel n acc, isDigit c = true := by
  induction fuel generalizing n acc with
  | zero => exact hacc
  | succ fuel ih =>
    rw [digitsAcc]
    split
    · next hn =>
      intro c hc
      rcases List.mem_cons.1 hc with rfl | hc
      · exact isDigit_digitChar hn
      · exact hacc c hc
    · apply ih
      intro c hc
      rcases List.mem_cons.1 hc with rfl | hc
      · exact isDigit_digitChar (Nat.mod_lt _ (by omega))
      · exact hacc c hc

/-- The digits of a positive number start with a digit other than zero.

**Proof sketch.** Induction on the fuel: the last digit that is put in front is the whole of what is
left, which is not zero. -/
lemma digitsAcc_eq_cons (fuel n : Nat) (acc : List Char) (h : n < 10 ^ fuel) (hn : n ≠ 0) :
    ∃ d rest, digitsAcc fuel n acc = d :: rest ∧ d ≠ '0' := by
  induction fuel generalizing n acc with
  | zero =>
    obtain rfl : n = 0 := by simpa using h
    exact absurd rfl hn
  | succ fuel ih =>
    rw [digitsAcc]
    split
    · next hlt => exact ⟨_, _, rfl, digitChar_ne_zero hlt hn⟩
    · next hge => exact ih _ _ (div_ten_lt h) (by omega)

end Decimal

namespace Json

/-! ## Well-formed numerals -/

/-- Digits before the point: one zero, or digits of which the first is not zero. -/
def IsWhole (ds : List Char) : Prop :=
  ds = ['0'] ∨ ∃ d rest, ds = d :: rest ∧ d ≠ '0' ∧ ∀ c ∈ ds, isDigit c = true

/-- A sequence of at least one digit. -/
def IsDigits (ds : List Char) : Prop := ds ≠ [] ∧ ∀ c ∈ ds, isDigit c = true

/-- The parts of a numeral make up a number literal. -/
structure Numeral.WellFormed (n : Numeral) : Prop where
  whole : IsWhole n.whole
  fraction : ∀ ds, n.fraction = some ds → IsDigits ds
  exponent : ∀ e, n.exponent = some e → IsDigits e.digits

/-- The digits of a natural number may stand before the point. -/
lemma isWhole_ofNat (n : Nat) : IsWhole (Decimal.ofNat n) := by
  by_cases hn : n = 0
  · subst hn
    exact .inl rfl
  · obtain ⟨d, rest, hd, h0⟩ :=
      Decimal.digitsAcc_eq_cons _ n [] (Decimal.lt_ten_pow_log2 n) hn
    exact .inr ⟨d, rest, hd, h0, Decimal.isDigit_of_mem_digitsAcc _ _ _ (by simp)⟩

/-- The literal of an integer is well formed. -/
lemma Numeral.wellFormed_ofInt (i : Int) : (Numeral.ofInt i).WellFormed where
  whole := isWhole_ofNat _
  fraction := by simp [Numeral.ofInt]
  exponent := by simp [Numeral.ofInt]

/-- **The literal of an integer denotes the integer.** -/
theorem Numeral.int?_ofInt (i : Int) : (Numeral.ofInt i).int? = some i := by
  simp only [Numeral.ofInt, Numeral.int?, Decimal.value_ofNat, decide_eq_true_eq]
  congr 1
  omega

/-- The literal of an integer in the 64-bit range denotes the integer within that range. -/
lemma Numeral.int64?_ofInt {i : Int} (h : inInt64 i = true) :
    (Numeral.ofInt i).int64? = some i := by
  simp [Numeral.int64?, Numeral.int?_ofInt, h]

/-- The exact value of an integer literal is an integer.

**Proof sketch.** An integer literal has the power zero, so its denominator is one. -/
lemma Numeral.isInteger_ofInt (i : Int) : (Numeral.ofInt i).isInteger = true := by
  have hpower : (Numeral.ofInt i).power = 0 := rfl
  have hexact : (Numeral.ofInt i).isExact = true := by
    have hexponent : (Numeral.ofInt i).exponent = none := rfl
    simp [Numeral.isExact, hpower, hexponent]
  have hden : (Numeral.ofInt i).ratio.2 = 1 := by
    unfold Numeral.ratio
    rw [hpower]
    split <;> rfl
  simp [Numeral.isInteger, hexact, hden, Nat.mod_one]

/-- The text of a numeral behind the digits before the point. -/
def Numeral.behind (n : Numeral) : List Char :=
  (n.fraction.map ('.' :: ·)).getD [] ++ (n.exponent.map Exponent.chars).getD []

/-- The text of a numeral is its sign, its digits before the point, and the rest. -/
lemma Numeral.chars_eq (n : Numeral) :
    n.chars = (if n.negative then ['-'] else []) ++ n.whole ++ n.behind := by
  obtain ⟨neg, w, f, e⟩ := n
  rcases f with _ | ds <;> rcases e with _ | e <;> simp [Numeral.chars, Numeral.behind]

/-! ## Reading numerals -/

/-- A character that cannot continue a number which may end before it. -/
def endsNumber (c : Char) : Bool := !isDigit c && c != '.' && c != 'e' && c != 'E'

/-- A text that starts with a character which cannot continue a number. -/
def EndsNumber (text : List Char) : Prop := ∃ c rest, text = c :: rest ∧ endsNumber c = true

/-- A text is one that ends a number as soon as its first character does. -/
lemma endsNumber_cons {c : Char} {rest : List Char} (h : endsNumber c = true) :
    EndsNumber (c :: rest) := ⟨c, rest, rfl, h⟩

namespace NumeralState

/-- The literal with several more characters, if they continue it. -/
def advanceAll? (s : NumeralState) (cs : List Char) : Option NumeralState :=
  cs.foldlM advance? s

/-- Reading one more character and then the others. -/
lemma advanceAll?_cons (s : NumeralState) (c : Char) (cs : List Char) :
    s.advanceAll? (c :: cs) = (s.advance? c).bind (·.advanceAll? cs) := rfl

/-- **Further digits** are taken one by one where each of them is taken. The digits so far are kept
in reverse order in `state`, and `P` is what they have to satisfy.

**Proof sketch.** Induction on the digits that are still to be read. -/
lemma advanceAll?_digits {state : List Char → NumeralState} {P : List Char → Prop}
    (hstep : ∀ acc c, P acc → isDigit c = true →
      (state acc).advance? c = some (state (c :: acc)) ∧ P (c :: acc))
    {acc ds : List Char} (hacc : P acc) (hds : ∀ c ∈ ds, isDigit c = true) :
    (state acc).advanceAll? ds = some (state (ds.reverse ++ acc)) := by
  induction ds generalizing acc with
  | nil => rfl
  | cons c ds ih =>
    obtain ⟨hadvance, hnext⟩ := hstep acc c hacc (hds c List.mem_cons_self)
    have hrest := ih hnext fun d hd => hds d (List.mem_cons_of_mem _ hd)
    rw [advanceAll?_cons, hadvance, Option.bind_some, hrest, List.reverse_cons, List.append_assoc]
    rfl

/-- Further digits before the point. What is read so far must not be a lone zero. -/
lemma advanceAll?_whole (neg : Bool) {acc ds : List Char} (hacc : acc ≠ [] ∧ acc ≠ ['0'])
    (hds : ∀ c ∈ ds, isDigit c = true) :
    (whole neg acc).advanceAll? ds = some (whole neg (ds.reverse ++ acc)) := by
  refine advanceAll?_digits (P := fun acc => acc ≠ [] ∧ acc ≠ ['0']) ?_ hacc hds
  rintro acc c ⟨hne, h0⟩ hc
  simp [advance?, hc, h0, hne]

/-- Further digits behind the point. -/
lemma advanceAll?_fraction (neg : Bool) (w acc : List Char) {ds : List Char}
    (hds : ∀ c ∈ ds, isDigit c = true) :
    (fraction neg w acc).advanceAll? ds = some (fraction neg w (ds.reverse ++ acc)) := by
  refine advanceAll?_digits (P := fun _ => True) ?_ trivial hds
  intro acc c _ hc
  simp [advance?, hc]

/-- Further digits of the exponent. -/
lemma advanceAll?_exponent (neg : Bool) (w : List Char) (f : Option (List Char)) (cap : Bool)
    (sgn : Option Bool) (acc : List Char) {ds : List Char} (hds : ∀ c ∈ ds, isDigit c = true) :
    (exponent neg w f cap sgn acc).advanceAll? ds =
      some (exponent neg w f cap sgn (ds.reverse ++ acc)) := by
  refine advanceAll?_digits (P := fun _ => True) ?_ trivial hds
  intro acc c _ hc
  simp [advance?, hc]

/-- Reading one text and then another. -/
lemma advanceAll?_append {s s' : NumeralState} {cs : List Char} (h : s.advanceAll? cs = some s')
    (ds : List Char) : s.advanceAll? (cs ++ ds) = s'.advanceAll? ds := by
  rw [advanceAll?, List.foldlM_append, ← advanceAll?, h]
  rfl

/-- A literal that may end takes none of the characters that end a number. -/
lemma advance?_eq_none {s : NumeralState} {n : Numeral} (hs : s.complete? = some n) {c : Char}
    (hc : endsNumber c = true) : s.advance? c = none := by
  simp only [endsNumber, Bool.and_eq_true, Bool.not_eq_true', bne_iff_ne] at hc
  obtain ⟨⟨⟨hdigit, hpoint⟩, he⟩, hE⟩ := hc
  cases s with
  | whole | fraction | exponent => simp [advance?, hdigit, hpoint, he, hE]
  | minus | point | mark | sign => simp [complete?] at hs

/-- An exponent, read behind the digits before the point or behind the fraction.

**Proof sketch.** The mark is read by assumption. Then the sign is taken if there is one, the first
digit completes the exponent, and the others are taken by `advanceAll?_exponent`. -/
lemma advanceAll?_exponentChars {s : NumeralState} (neg : Bool) (w : List Char)
    (f : Option (List Char)) (e : Exponent) (he : IsDigits e.digits)
    (hs : s.advance? (if e.capital then 'E' else 'e') = some (mark neg w f e.capital)) :
    s.advanceAll? e.chars = some (exponent neg w f e.capital e.sign e.digits.reverse) := by
  rw [Exponent.chars, advanceAll?_cons, hs, Option.bind_some]
  obtain ⟨cap, sgn, digits⟩ := e
  obtain ⟨d, ds, rfl⟩ := List.exists_cons_of_ne_nil he.1
  have hd : isDigit d = true := he.2 d (by simp)
  have hds : ∀ c ∈ ds, isDigit c = true := fun c hc => he.2 c (by simp [hc])
  have hsign : isDigit '-' = false ∧ isDigit '+' = false := by decide
  rcases sgn with _ | _ | _
  all_goals
    simp [advanceAll?_cons, advance?, hd, hsign, advanceAll?_exponent _ _ _ _ _ _ hds]

/-- **The rest of a literal**: what stands behind the digits before the point completes the
numeral.

**Proof sketch.** By whether there is a fraction and an exponent. Each of them is read by its own
lemma, and in all four cases the state behind it is complete. -/
lemma exists_complete_of_wellFormed (n : Numeral) (hn : n.WellFormed) :
    ∃ s, (whole n.negative n.whole.reverse).advanceAll? n.behind = some s ∧
      s.complete? = some n := by
  obtain ⟨neg, w, f, e⟩ := n
  have hpoint : isDigit '.' = false := by decide
  have hmark : isDigit 'e' = false ∧ isDigit 'E' = false := by decide
  rcases f with _ | ds
  · rcases e with _ | e
    · exact ⟨whole neg w.reverse, rfl, by simp [complete?]⟩
    · refine ⟨_, advanceAll?_exponentChars neg w none e (hn.exponent e rfl) ?_, ?_⟩
      · cases e.capital <;> simp [advance?, hmark]
      · simp [complete?]
  · obtain ⟨d, ds, rfl⟩ := List.exists_cons_of_ne_nil (hn.fraction _ rfl).1
    have hd : isDigit d = true := (hn.fraction _ rfl).2 d (by simp)
    have hds : ∀ c ∈ ds, isDigit c = true := fun c hc => (hn.fraction _ rfl).2 c (by simp [hc])
    have hfraction : (whole neg w.reverse).advanceAll? ('.' :: d :: ds) =
        some (fraction neg w (ds.reverse ++ [d])) := by
      simp [advanceAll?_cons, advance?, hpoint, hd, advanceAll?_fraction _ _ _ hds]
    simp only [Numeral.behind, Option.map_some, Option.getD_some, advanceAll?_append hfraction]
    rcases e with _ | e
    · exact ⟨fraction neg w (ds.reverse ++ [d]), rfl, by simp [complete?]⟩
    · refine ⟨_, advanceAll?_exponentChars neg w (some (d :: ds)) e (hn.exponent e rfl) ?_, ?_⟩
      · cases e.capital <;> simp [advance?, hmark]
      · simp [complete?]

end NumeralState

namespace Reader

variable (stack : List Frame) (room : Nat)

/-- While characters continue a number, the reader stays within the number.

**Proof sketch.** Induction on the characters: each of them is taken by the number. -/
lemma run_advanceAll {s s' : NumeralState} {cs : List Char} (h : s.advanceAll? cs = some s') :
    (Reader.mk stack room (.numeral s)).run cs = ⟨stack, room, .numeral s'⟩ := by
  induction cs generalizing s with
  | nil =>
    obtain rfl : s = s' := Option.some.inj h
    rfl
  | cons c cs ih =>
    rw [NumeralState.advanceAll?_cons] at h
    obtain ⟨t, ht, hrest⟩ := Option.bind_eq_some_iff.1 h
    rw [run_cons, step]
    simp only [ht]
    exact ih hrest

/-- Once a value is delivered the reader is between tokens. -/
lemma step_deliver (r : Reader) (v : Json) (c : Char) :
    (r.deliver v).step c = (r.deliver v).stepBetween c := by
  unfold deliver
  split <;> rfl

/-- A number that may end is delivered before the character that ends it is read. -/
lemma run_complete {s : NumeralState} {n : Numeral} (hs : s.complete? = some n) {tail : List Char}
    (ht : EndsNumber tail) :
    (Reader.mk stack room (.numeral s)).run tail =
      ((Reader.mk stack room .value).deliver (.num n)).run tail := by
  obtain ⟨c, rest, rfl, hc⟩ := ht
  rw [run_cons, run_cons, step_deliver, step]
  simp only [NumeralState.advance?_eq_none hs hc, hs]
  congr 1

/-- The modes in which a value may start. -/
def startsValue : Mode → Prop
  | .value | .firstItem => True
  | _ => False

/-- The first character of a value, wherever a value may start. -/
lemma step_startValue {m : Mode} (hm : startsValue m) {c : Char} (hblank : isBlank c = false)
    (hc : c ≠ ']') :
    (Reader.mk stack room m).step c = (Reader.mk stack room .value).startValue c := by
  cases m with
  | value => simp [step, stepBetween, hblank]
  | firstItem =>
    simp only [step, stepBetween, hblank, hc, Bool.false_eq_true, if_false]
    rfl
  | _ => exact hm.elim

/-- A digit differs from every character that is none. -/
lemma ne_of_isDigit {d c : Char} (hd : isDigit d = true) (hc : isDigit c = false) : d ≠ c := by
  rintro rfl
  rw [hc] at hd
  exact Bool.false_ne_true hd

/-- A digit is none of the other characters with which a value starts. -/
lemma startValue_digit {d : Char} (hd : isDigit d = true) :
    (Reader.mk stack room .value).startValue d =
      ⟨stack, room, .numeral (.whole false [d])⟩ := by
  simp [startValue, ne_of_isDigit hd (c := '\x7b') (by decide),
    ne_of_isDigit hd (c := '[') (by decide), ne_of_isDigit hd (c := '"') (by decide),
    ne_of_isDigit hd (c := '-') (by decide), hd]

/-- A digit is neither a blank nor the end of an array. -/
lemma isBlank_of_isDigit {d : Char} (hd : isDigit d = true) : isBlank d = false ∧ d ≠ ']' := by
  refine ⟨?_, ne_of_isDigit hd (by decide)⟩
  simp [isBlank, ne_of_isDigit hd (c := ' ') (by decide), ne_of_isDigit hd (c := '\t') (by decide),
    ne_of_isDigit hd (c := '\n') (by decide), ne_of_isDigit hd (c := '\r') (by decide)]

/-- The sign and the digits before the point.

**Proof sketch.** The sign and the first digit are read one by one. The other digits are taken by
`advanceAll?_whole`, which needs that a zero stands alone. -/
lemma run_whole {m : Mode} (hm : startsValue m) (neg : Bool) {w : List Char} (hw : IsWhole w) :
    (Reader.mk stack room m).run ((if neg then ['-'] else []) ++ w) =
      ⟨stack, room, .numeral (.whole neg w.reverse)⟩ := by
  obtain ⟨d, ds, rfl, hd, hds⟩ : ∃ d ds, w = d :: ds ∧ isDigit d = true ∧
      (NumeralState.whole neg [d]).advanceAll? ds = some (.whole neg (d :: ds).reverse) := by
    rcases hw with rfl | ⟨d, ds, rfl, h0, hall⟩
    · exact ⟨'0', [], rfl, by decide, rfl⟩
    · refine ⟨d, ds, rfl, hall d (by simp), ?_⟩
      rw [NumeralState.advanceAll?_whole neg ⟨by simp, by simpa using h0⟩
        fun c hc => hall c (by simp [hc])]
      simp
  have hfirst : (Reader.mk stack room m).run ((if neg then ['-'] else []) ++ [d]) =
      ⟨stack, room, .numeral (.whole neg [d])⟩ := by
    cases neg with
    | false =>
      obtain ⟨hb, hne⟩ := isBlank_of_isDigit hd
      simp [step_startValue stack room hm hb hne, startValue_digit stack room hd]
    | true =>
      have hminus : (Reader.mk stack room m).step '-' = ⟨stack, room, .numeral .minus⟩ := by
        rw [step_startValue stack room hm (by decide) (by decide)]
        rfl
      have hdigit : NumeralState.minus.advance? d = some (.whole true [d]) := by
        simp [NumeralState.advance?, hd]
      have hrun : (Reader.mk stack room (.numeral .minus)).run [d] =
          ⟨stack, room, .numeral (.whole true [d])⟩ :=
        run_advanceAll stack room (by rw [NumeralState.advanceAll?_cons, hdigit]; rfl)
      simpa only [if_true, List.singleton_append, run_cons, hminus] using hrun
  have hsplit : (if neg then ['-'] else []) ++ d :: ds =
      ((if neg then ['-'] else []) ++ [d]) ++ ds := by simp
  rw [hsplit, run_append, hfirst]
  exact run_advanceAll stack room hds

/-- **Reading a numeral**: where a value may start, the text of a well-formed numeral delivers the
numeral, if what follows cannot continue a number. -/
theorem run_numeral {m : Mode} (hm : startsValue m) {n : Numeral} (hn : n.WellFormed)
    {tail : List Char} (ht : EndsNumber tail) :
    (Reader.mk stack room m).run (n.chars ++ tail) =
      ((Reader.mk stack room .value).deliver (.num n)).run tail := by
  obtain ⟨s, hs, hcomplete⟩ := NumeralState.exists_complete_of_wellFormed n hn
  rw [Numeral.chars_eq, run_append, run_append, run_whole stack room hm n.negative hn.whole,
    run_advanceAll stack room hs, run_complete stack room hcomplete ht]

end Reader

end Json

end SchemaKit
