import SchemaKit.Proofs.Decimal.Shortest

/-!
# Doubles survive their literals

A double is written as the literal with the fewest digits that lie in its rounding interval. Reading
the literal and rounding its value gives back the double, so that rounding every number of a
document to a double is done once and for all.

## Main definitions

* `SchemaKit.Json.Numeral.amount` — the value of a literal without its sign, as a rational number.
* `SchemaKit.Json.Double.Valid` — the magnitude of a double is that of a finite double.

## Main results

* `SchemaKit.Json.Numeral.amount_ofFigures` — laying out digits keeps what they denote.
* `SchemaKit.Json.Numeral.valid_of_double?` — rounding gives a finite double.
* `SchemaKit.Json.Numeral.nearest?_eq_of_mem` — a literal in the rounding interval of a double is
  rounded to it.
* `SchemaKit.Json.Numeral.wellFormed_ofDouble` — the literal of a double is well formed.
* `SchemaKit.Json.Numeral.double?_ofDouble` — the literal of a double is turned into the double.
-/

namespace SchemaKit

/-! ## The value of digits -/

namespace Decimal

open Json (isDigit)

/-- Digits in front are worth more. -/
lemma foldl_value (ds : List Char) (n : ℕ) :
    ds.foldl (fun m c => 10 * m + digitValue c) n = n * 10 ^ ds.length + value ds := by
  induction ds generalizing n with
  | nil => simp [value]
  | cons c ds ih =>
    rw [value, List.foldl_cons, List.foldl_cons, ih, ih (10 * 0 + _), List.length_cons, pow_succ]
    ring

/-- The value of digits in two parts. -/
lemma value_append (ds es : List Char) : value (ds ++ es) = value ds * 10 ^ es.length + value es := by
  rw [value, List.foldl_append, foldl_value, ← value]

/-- The value of digits by their first one. -/
lemma value_cons (c : Char) (ds : List Char) :
    value (c :: ds) = digitValue c * 10 ^ ds.length + value ds := by
  rw [value, List.foldl_cons, foldl_value, Nat.mul_zero, Nat.zero_add]

/-- Zeros are worth nothing. -/
lemma value_replicate_zero (k : ℕ) : value (List.replicate k '0') = 0 := by
  induction k with
  | zero => rfl
  | succ k ih => rw [List.replicate_succ, value_cons, ih, show digitValue '0' = 0 from rfl, Nat.zero_mul]

/-- The value of a digit is below ten. -/
lemma digitValue_lt {c : Char} (h : isDigit c = true) : digitValue c < 10 := by
  simp only [isDigit, Bool.and_eq_true, decide_eq_true_eq, Char.le_def, UInt32.le_iff_toNat_le] at h
  have h9 : c.toNat ≤ 57 := h.2
  rw [digitValue]
  omega

/-- A digit that is not zero is worth something. -/
lemma digitValue_pos {c : Char} (h : isDigit c = true) (h0 : c ≠ '0') : 0 < digitValue c := by
  simp only [isDigit, Bool.and_eq_true, decide_eq_true_eq, Char.le_def, UInt32.le_iff_toNat_le] at h
  have h48 : 48 ≤ c.toNat := h.1
  have hne : c.toNat ≠ 48 := fun heq => h0 (Char.toNat_inj.1 heq)
  rw [digitValue]
  omega

/-- The value of digits is below the power of ten that their number gives. -/
lemma value_lt {ds : List Char} (h : ∀ c ∈ ds, isDigit c = true) : value ds < 10 ^ ds.length := by
  induction ds with
  | nil => exact Nat.one_pos
  | cons c ds ih =>
    have hc := digitValue_lt (h c List.mem_cons_self)
    have hds := ih fun d hd => h d (List.mem_cons_of_mem _ hd)
    rw [value_cons, List.length_cons, pow_succ]
    nlinarith

/-- The digits of a positive number: the first one is not zero. -/
lemma ofNat_eq_cons {n : ℕ} (hn : 0 < n) :
    ∃ d ds, ofNat n = d :: ds ∧ d ≠ '0' ∧ ∀ c ∈ d :: ds, isDigit c = true := by
  obtain ⟨d, ds, heq, hd⟩ := digitsAcc_eq_cons _ n [] (lt_ten_pow_log2 n) hn.ne'
  refine ⟨d, ds, heq, hd, ?_⟩
  rw [← heq]
  exact isDigit_of_mem_digitsAcc _ _ _ (by simp)

/-- A positive number lies between the powers of ten that the number of its digits gives.

**Proof sketch.** The first digit is at least one, so the number is at least the power of ten at its
place. All digits are less than ten, so it is less than the next power. -/
lemma length_ofNat {n : ℕ} (hn : 0 < n) :
    0 < (ofNat n).length ∧ 10 ^ ((ofNat n).length - 1) ≤ n ∧ n < 10 ^ (ofNat n).length := by
  obtain ⟨d, ds, heq, hd, hall⟩ := ofNat_eq_cons hn
  have hvalue := value_ofNat n
  rw [heq] at hvalue ⊢
  refine ⟨by simp, ?_, ?_⟩
  · have hpos := digitValue_pos (hall d List.mem_cons_self) hd
    rw [← hvalue, value_cons, List.length_cons, Nat.add_sub_cancel]
    nlinarith [Nat.zero_le (value ds), Nat.pow_pos (n := ds.length) (show 0 < 10 by decide)]
  · rw [← hvalue]
    exact value_lt hall

end Decimal

namespace Json

open Decimal

/-! ## Literals as rational numbers -/

/-- The value of a literal without its sign. -/
def Numeral.amount (n : Numeral) : ℚ := n.coefficient * 10 ^ n.power

/-- A literal denotes zero iff its digits do. -/
lemma Numeral.amount_eq_zero_iff (n : Numeral) : n.amount = 0 ↔ n.coefficient = 0 := by
  have hten : (10 : ℚ) ^ n.power ≠ 0 := zpow_ne_zero _ (by norm_num)
  rw [Numeral.amount, mul_eq_zero, or_iff_left hten, Nat.cast_eq_zero]

/-- The fraction of a literal denotes its value. -/
lemma Numeral.ratio_spec {n : Numeral} (h : n.coefficient ≠ 0) :
    0 < n.ratio.1 ∧ 0 < n.ratio.2 ∧ (n.ratio.1 : ℚ) / n.ratio.2 = n.amount := by
  have hpos := Nat.pos_of_ne_zero h
  rw [Numeral.amount, natCast_mul_zpow]
  simp only [Numeral.ratio, if_neg h]
  split
  · exact ⟨Nat.mul_pos hpos (Nat.pow_pos (by decide)), one_pos, by simp⟩
  · exact ⟨hpos, Nat.pow_pos (by decide), by simp⟩

/-- Digits at some power of ten lie between the powers of ten at the first of them and before it.

**Proof sketch.** The digits of a number are as many as its logarithm says, so that it lies between
two powers of ten. Both are multiplied by the power of ten. -/
lemma amount_bounds {c : ℕ} (hc : 0 < c) (p : ℤ) :
    (10 : ℚ) ^ ((Decimal.ofNat c).length + p - 1) ≤ c * 10 ^ p ∧
      (c : ℚ) * 10 ^ p < 10 ^ ((Decimal.ofNat c).length + p) := by
  obtain ⟨hlength, hlow, hhigh⟩ := length_ofNat hc
  have hten : (10 : ℚ) ≠ 0 := by norm_num
  set k := (Decimal.ofNat c).length with hk
  have hlow' : (10 : ℚ) ^ (k - 1) ≤ c := by exact_mod_cast hlow
  have hhigh' : (c : ℚ) < 10 ^ k := by exact_mod_cast hhigh
  constructor
  · calc (10 : ℚ) ^ ((k : ℤ) + p - 1) = 10 ^ (k - 1) * 10 ^ p := by
          rw [← zpow_natCast, ← zpow_add₀ hten]
          congr 1
          omega
      _ ≤ c * 10 ^ p := by gcongr
  · calc (c : ℚ) * 10 ^ p < 10 ^ k * 10 ^ p := by gcongr
      _ = 10 ^ ((k : ℤ) + p) := by rw [← zpow_natCast, ← zpow_add₀ hten]

/-- A literal lies between the powers of ten that its places give. -/
lemma Numeral.amount_bounds {n : Numeral} (h : n.coefficient ≠ 0) :
    (10 : ℚ) ^ (n.places - 1) ≤ n.amount ∧ n.amount < 10 ^ n.places :=
  Json.amount_bounds (Nat.pos_of_ne_zero h) n.power

/-! ## Laying out digits -/

/-- The digits of an exponent denote it. -/
lemma value_exponentDigits (e : ℤ) : value (jsonLayout.exponentDigits e) = e.natAbs := by
  rw [Layout.exponentDigits, padLeft, value_append, value_replicate_zero, value_ofNat]
  simp

/-- Zeros behind the digits can be moved into the power of ten. -/
lemma Numeral.amount_eq {n : Numeral} {c k : ℕ} {p : ℤ} (hcoefficient : n.coefficient = c * 10 ^ k)
    (hpower : n.power = p - k) : n.amount = c * 10 ^ p := by
  rw [Numeral.amount, hcoefficient, hpower, zpow_sub₀ (by norm_num), zpow_natCast]
  push_cast
  field_simp

/-- Laying out digits without an exponent keeps what they denote.

**Proof sketch.** The digits of the literal are those of the figures with zeros in front, if the
point stands before them, or with zeros behind, if it stands after them. In both cases the power of
ten makes up for the zeros. -/
lemma Numeral.amount_positional (negative : Bool) {f : Figures} (hf : f.digits ≠ []) :
    (Numeral.mk negative f.whole (if f.part.isEmpty then none else some f.part) none).amount =
      f.amount := by
  obtain ⟨ds, point⟩ := f
  have hlength : 0 < ds.length := List.length_pos_of_ne_nil hf
  -- an empty part behind the point may be written or not
  have hpart : (if (Figures.part ⟨ds, point⟩).isEmpty then none
      else some (Figures.part ⟨ds, point⟩)).getD [] = Figures.part ⟨ds, point⟩ := by
    cases h : Figures.part ⟨ds, point⟩ <;> rfl
  rw [Figures.amount]
  simp only
  rcases le_or_gt point 0 with hpoint | hpoint
  · -- zeros before the digits
    have hwhole : Figures.whole ⟨ds, point⟩ = ['0'] := if_pos hpoint
    have hzeros : Figures.part ⟨ds, point⟩ = List.replicate (-point).toNat '0' ++ ds :=
      if_pos hpoint
    refine Numeral.amount_eq (k := 0) ?_ ?_
    · rw [Numeral.coefficient, hpart, hwhole, hzeros, List.singleton_append, value_cons,
        value_append, value_replicate_zero]
      simp [digitValue]
    · rw [Numeral.power, hpart, hzeros, Numeral.shift, List.length_append, List.length_replicate]
      simp only
      omega
  · obtain ⟨k, rfl⟩ := Int.eq_ofNat_of_zero_le hpoint.le
    have hwhole : Figures.whole ⟨ds, k⟩ = ds.take k ++ List.replicate (k - ds.length) '0' :=
      if_neg (not_le.2 hpoint)
    have hdrop : Figures.part ⟨ds, k⟩ = ds.drop k := if_neg (not_le.2 hpoint)
    refine Numeral.amount_eq (k := k - ds.length) ?_ ?_
    · rw [Numeral.coefficient, hpart, hwhole, hdrop]
      rcases le_total ds.length k with hle | hle
      · -- zeros behind the digits
        rw [List.take_of_length_le hle, List.drop_of_length_le hle, List.append_nil, value_append,
          value_replicate_zero, List.length_replicate, Nat.add_zero]
      · rw [Nat.sub_eq_zero_of_le hle, List.replicate_zero, List.append_nil, List.take_append_drop,
          pow_zero, Nat.mul_one]
    · rw [Numeral.power, hpart, hdrop, Numeral.shift, List.length_drop]
      simp only
      omega

/-- Laying out digits with an exponent keeps what they denote.

**Proof sketch.** The digits are divided after the first one, and the exponent that is written is
one less than the place of the point. -/
lemma Numeral.amount_scientific (negative : Bool) {f : Figures} (hf : f.digits ≠ []) :
    (Numeral.mk negative (f.digits.take 1)
        (if f.digits.length ≤ 1 then none else some (f.digits.drop 1))
        (some ⟨false, some (f.point - 1 < 0), jsonLayout.exponentDigits (f.point - 1)⟩)).amount =
      f.amount := by
  obtain ⟨ds, point⟩ := f
  have hlength : 0 < ds.length := List.length_pos_of_ne_nil hf
  have hpart : (if ds.length ≤ 1 then none else some (ds.drop 1)).getD [] = ds.drop 1 := by
    split
    · next h => rw [List.drop_of_length_le h, Option.getD_none]
    · rfl
  rw [Figures.amount]
  refine Numeral.amount_eq (k := 0) ?_ ?_
  · rw [Numeral.coefficient, hpart, List.take_append_drop, pow_zero, Nat.mul_one]
  · rw [Numeral.power, hpart, Numeral.shift, List.length_drop]
    simp only [value_exponentDigits, Option.some.injEq, decide_eq_true_eq]
    split <;> omega

/-- **Laying out digits keeps what they denote.** -/
lemma Numeral.amount_ofFigures (negative : Bool) {f : Figures} (hf : f.digits ≠ []) :
    (Numeral.ofFigures jsonLayout negative f).amount = f.amount := by
  rw [Numeral.ofFigures]
  split
  · exact Numeral.amount_positional negative hf
  · exact Numeral.amount_scientific negative hf

/-! ## Well-formed literals of digits -/

/-- Zeros are digits. -/
lemma isDigit_of_mem_replicate {k : ℕ} {c : Char} (h : c ∈ List.replicate k '0') :
    isDigit c = true := by
  rw [List.eq_of_mem_replicate h]
  decide

/-- The digits of an exponent are digits. -/
lemma isDigits_exponentDigits (e : ℤ) : IsDigits (jsonLayout.exponentDigits e) := by
  have hall : ∀ c ∈ Decimal.ofNat e.natAbs, isDigit c = true :=
    isDigit_of_mem_digitsAcc _ _ _ (by simp)
  have hne : Decimal.ofNat e.natAbs ≠ [] := by
    rcases isWhole_ofNat e.natAbs with h | ⟨d, rest, h, -⟩ <;> rw [h] <;> exact List.cons_ne_nil _ _
  refine ⟨List.append_ne_nil_of_right_ne_nil _ hne, fun c hc => ?_⟩
  rcases List.mem_append.1 hc with hc | hc
  · exact isDigit_of_mem_replicate hc
  · exact hall c hc

/-- **Digits of which the first is not zero are laid out as a well-formed literal.**

**Proof sketch.** Without an exponent, the whole part is a zero or starts with the first digit, and
the part behind the point is left out if it is empty. With an exponent, the first digit is the whole
part. All other characters are digits or zeros. -/
lemma Numeral.wellFormed_ofFigures (negative : Bool) {f : Figures} {d : Char} {ds : List Char}
    (hf : f.digits = d :: ds) (hd : d ≠ '0') (hall : ∀ c ∈ d :: ds, isDigit c = true) :
    (Numeral.ofFigures jsonLayout negative f).WellFormed := by
  obtain ⟨digits, point⟩ := f
  obtain rfl : digits = d :: ds := hf
  rw [Numeral.ofFigures]
  split
  · refine ⟨?_, ?_, fun e he => absurd he (Option.some_ne_none e).symm⟩
    · simp only [Figures.whole]
      split
      · exact .inl rfl
      · next hpoint =>
        obtain ⟨k, hk⟩ : ∃ k, point.toNat = k + 1 := ⟨point.toNat - 1, by omega⟩
        rw [hk, List.take_succ_cons]
        refine .inr ⟨d, _, rfl, hd, fun c hc => ?_⟩
        rcases List.mem_append.1 hc with hc | hc
        · refine hall c ?_
          rcases List.mem_cons.1 hc with rfl | hc
          · exact List.mem_cons_self
          · exact List.mem_cons_of_mem _ (List.mem_of_mem_take hc)
        · exact isDigit_of_mem_replicate hc
    · intro part hpart
      simp only at hpart
      split at hpart
      · cases hpart
      · next hne =>
        obtain rfl := Option.some.inj hpart
        refine ⟨by simpa using hne, fun c hc => ?_⟩
        simp only [Figures.part] at hc
        split at hc
        · rcases List.mem_append.1 hc with hc | hc
          · exact isDigit_of_mem_replicate hc
          · exact hall c hc
        · exact hall c (List.mem_of_mem_drop hc)
  · refine ⟨?_, ?_, ?_⟩
    · exact .inr ⟨d, [], rfl, hd, fun c hc => hall c (List.mem_of_mem_take hc)⟩
    · intro part hpart
      simp only at hpart
      split at hpart
      · cases hpart
      · next hlength =>
        obtain rfl := Option.some.inj hpart
        refine ⟨fun hnil => hlength ?_, fun c hc => hall c (List.mem_of_mem_drop hc)⟩
        simpa using List.drop_eq_nil_iff.1 hnil
    · intro e he
      obtain rfl := Option.some.inj he
      exact isDigits_exponentDigits _

/-! ## Doubles -/

/-- The magnitude of a double, if it is not zero, is that of a finite double. -/
def Double.Valid (d : Double) : Prop :=
  ∀ b, d.magnitude = some b → b.IsDouble ∧ 0 < b.mantissa ∧ b.isInfinite = false

/-- Rounding the value of a literal gives a finite double.

**Proof sketch.** By the cases of rounding: zero, too large, too small, or a double whose mantissa
is not zero and which is not infinite. Rounding gives a double by `isDouble_round`. -/
lemma Numeral.valid_of_nearest? {n : Numeral} {d : Double} (h : n.nearest? = some d) : d.Valid := by
  rw [Numeral.nearest?] at h
  split at h
  · obtain rfl := Option.some.inj h
    exact nofun
  · next hcoefficient =>
    obtain ⟨hnum, hden, -⟩ := Numeral.ratio_spec hcoefficient
    split at h
    · cases h
    · split at h
      · obtain rfl := Option.some.inj h
        exact nofun
      · simp only at h
        split at h
        · cases h
        · next hfinite =>
          split at h
          · obtain rfl := Option.some.inj h
            exact nofun
          · next hmantissa =>
            obtain rfl := Option.some.inj h
            intro b hb
            obtain rfl := Option.some.inj hb
            exact ⟨isDouble_round hnum hden, Nat.pos_of_ne_zero hmantissa,
              Bool.eq_false_of_not_eq_true hfinite⟩

/-- **A literal is turned into a finite double.** -/
lemma Numeral.valid_of_double? {n : Numeral} {d : Double} (h : n.double? = some d) : d.Valid :=
  Numeral.valid_of_nearest? h

/-- The literal of a double denotes what its shortest digits denote.

**Proof sketch.** The shortest digits are those of a positive number, so there are some, and laying
them out keeps what they denote. -/
lemma Double.Valid.amount_ofDouble {d : Double} {b : Binary} (hd : d.Valid)
    (hb : d.magnitude = some b) :
    (Numeral.ofDouble d).amount = (b.interval double false).shortest.amount := by
  obtain ⟨-, hpos, -⟩ := hd b hb
  obtain ⟨-, n, hn, hdigits⟩ := shortest_mem (proper_interval hpos)
  have hne : (b.interval double false).shortest.digits ≠ [] := by
    obtain ⟨c, cs, heq, -⟩ := ofNat_eq_cons hn
    rw [hdigits, heq]
    exact List.cons_ne_nil _ _
  have hliteral : Numeral.ofDouble d =
      Numeral.ofFigures jsonLayout d.negative (b.interval double false).shortest := by
    rw [Numeral.ofDouble, hb]
  rw [hliteral, Numeral.amount_ofFigures _ hne]

/-- What a finite double is written as: the digits of a positive number in its interval. -/
lemma Double.Valid.shortest {d : Double} {b : Binary} (hd : d.Valid) (hb : d.magnitude = some b) :
    (b.interval double false).Mem (Numeral.ofDouble d).amount ∧
      ∃ n, 0 < n ∧ (b.interval double false).shortest.digits = Decimal.ofNat n := by
  rw [hd.amount_ofDouble hb]
  obtain ⟨-, hpos, -⟩ := hd b hb
  exact shortest_mem (proper_interval hpos)

/-- **The literal of a double is well formed.**

**Proof sketch.** The digits are those of a positive number, so the first one is not zero, and
`wellFormed_ofFigures` applies. -/
theorem Numeral.wellFormed_ofDouble {d : Double} (hd : d.Valid) :
    (Numeral.ofDouble d).WellFormed := by
  cases hb : d.magnitude with
  | none =>
    rw [Numeral.ofDouble, hb]
    exact ⟨.inl rfl, nofun, nofun⟩
  | some b =>
    obtain ⟨-, n, hn, hdigits⟩ := hd.shortest hb
    obtain ⟨c, cs, heq, hc, hall⟩ := ofNat_eq_cons hn
    rw [Numeral.ofDouble, hb]
    exact Numeral.wellFormed_ofFigures _ (hdigits.trans heq) hc hall

/-- A number in the interval of a finite double is within the range of doubles.

**Proof sketch.** The interval reaches from less than the mantissa to a little above it, in units of
the double. The mantissa is at least one, the unit is at least the smallest one, and the double is
finite. -/
lemma Double.Valid.bounds {d : Double} {b : Binary} (hd : d.Valid) (hb : d.magnitude = some b)
    {x : ℚ} (hx : (b.interval double false).Mem x) :
    (2 : ℚ) ^ (-1075 : ℤ) ≤ x ∧ x < 2 ^ (1025 : ℤ) := by
  obtain ⟨⟨-, hleast, -⟩, hpos, hfinite⟩ := hd b hb
  obtain ⟨hlow, hhigh, -⟩ := units_of_mem hpos hx
  have hunit : (0 : ℚ) < 2 ^ b.exponent := by positivity
  have hmantissa : (1 : ℚ) ≤ b.mantissa := by exact_mod_cast hpos
  have hquarters : (b.quarters : ℚ) ≤ 2 := by exact_mod_cast b.quarters_bounds.2
  have hlog : (b.mantissa.log2 : ℤ) + 1 + b.exponent ≤ 1024 := by
    simpa [Binary.isInfinite] using hfinite
  rw [zpow_neg, ← div_eq_mul_inv] at hlow hhigh
  rw [le_div_iff₀ hunit] at hlow
  rw [div_le_iff₀ hunit] at hhigh
  constructor
  · calc (2 : ℚ) ^ (-1075 : ℤ) = 2 ^ (-1 : ℤ) * 2 ^ (-1074 : ℤ) := by
          rw [← zpow_add₀ two_ne_zero]
          rfl
      _ = 1 / 2 * 2 ^ (-1074 : ℤ) := by rw [zpow_neg_one, one_div]
      _ ≤ 1 / 2 * 2 ^ b.exponent := by gcongr; exact one_le_two
      _ ≤ (b.mantissa - b.quarters / 4) * 2 ^ b.exponent := by
          gcongr
          linarith
      _ ≤ x := hlow
  · calc x ≤ (b.mantissa + 1 / 2) * 2 ^ b.exponent := hhigh
      _ ≤ 2 * b.mantissa * 2 ^ b.exponent := by
          gcongr
          linarith
      _ < 2 * 2 ^ ((b.mantissa.log2 : ℤ) + 1) * 2 ^ b.exponent := by
          gcongr
          exact (log2_bounds hpos).2
      _ = 2 ^ (1 + ((b.mantissa.log2 : ℤ) + 1) + b.exponent) := by
          rw [← zpow_one_add₀ two_ne_zero, ← zpow_add₀ two_ne_zero]
      _ ≤ 2 ^ (1025 : ℤ) := zpow_le_zpow_right₀ one_le_two (by omega)

/-- Three binary digits are less than a decimal one. -/
lemma two_zpow_le (k : ℕ) : (2 : ℚ) ^ (3 * k : ℤ) ≤ 10 ^ (k : ℤ) := by
  rw [zpow_mul, zpow_natCast, zpow_natCast]
  gcongr
  norm_num

/-- A number within the range of doubles has less than 400 places before the point. -/
lemma lt_of_zpow_le {x : ℚ} {k : ℤ} (hx : x < 2 ^ (1025 : ℤ)) (h : 10 ^ k ≤ x) : k < 400 := by
  by_contra hk
  refine lt_irrefl x ?_
  calc x < 2 ^ (1025 : ℤ) := hx
    _ ≤ 2 ^ (3 * 400 : ℤ) := zpow_le_zpow_right₀ one_le_two (by norm_num)
    _ ≤ 10 ^ (400 : ℤ) := two_zpow_le 400
    _ ≤ 10 ^ k := zpow_le_zpow_right₀ (by norm_num) (by omega)
    _ ≤ x := h

/-- A number within the range of doubles starts less than 400 places behind the point.

**Proof sketch.** Otherwise the number would be less than `10 ^ (-400)`, which is less than `2 ^
(-1200)`. -/
lemma lt_of_lt_zpow {x : ℚ} {k : ℤ} (hx : (2 : ℚ) ^ (-1075 : ℤ) ≤ x) (h : x < 10 ^ k) :
    -400 < k := by
  by_contra hk
  refine lt_irrefl x ?_
  calc x < 10 ^ k := h
    _ ≤ 10 ^ (-400 : ℤ) := zpow_le_zpow_right₀ (by norm_num) (by omega)
    _ ≤ 2 ^ (-(3 * 400) : ℤ) := by
        rw [zpow_neg, zpow_neg]
        exact inv_anti₀ (by positivity) (two_zpow_le 400)
    _ ≤ 2 ^ (-1075 : ℤ) := zpow_le_zpow_right₀ one_le_two (by norm_num)
    _ ≤ x := hx

/-- The sign of the literal of a double is that of the double. -/
lemma Numeral.negative_ofDouble (d : Double) : (Numeral.ofDouble d).negative = d.negative := by
  rw [Numeral.ofDouble]
  split
  · rfl
  · rw [Numeral.ofFigures]
    split <;> rfl

/-- **A literal in the interval of a finite double is rounded to it.**

**Proof sketch.** By `Double.Valid.bounds` the value of the literal is within the range of doubles,
so by `amount_bounds` its place is far from both limits behind which rounding answers without a
division. The division itself is `round_eq_of_mem`. -/
theorem Numeral.nearest?_eq_of_mem {n : Numeral} {b : Binary} {negative : Bool}
    (hvalid : Double.Valid ⟨negative, some b⟩) (hmem : (b.interval double false).Mem n.amount) :
    n.nearest? = some ⟨n.negative, some b⟩ := by
  obtain ⟨hlow, hhigh⟩ := hvalid.bounds rfl hmem
  obtain ⟨hdouble, hpos, hfinite⟩ := hvalid b rfl
  have hcoefficient : n.coefficient ≠ 0 := by
    intro hzero
    have hsmall : (0 : ℚ) < 2 ^ (-1075 : ℤ) := by positivity
    rw [Numeral.amount, hzero, Nat.cast_zero, zero_mul] at hlow
    linarith
  -- the literal is far from both ends of the range that is tried
  obtain ⟨hplaces, hplaces'⟩ := Numeral.amount_bounds hcoefficient
  have hbelow : ¬400 < n.places := by
    have := lt_of_zpow_le hhigh hplaces
    omega
  have habove : ¬n.places < -400 := by
    have := lt_of_lt_zpow hlow hplaces'
    omega
  obtain ⟨hnum, hden, hratio⟩ := Numeral.ratio_spec hcoefficient
  rw [← hratio] at hmem
  have hround := round_eq_of_mem hdouble hpos hnum hden hmem
  rw [Numeral.nearest?, if_neg hcoefficient, if_neg hbelow, if_neg habove]
  simp only [hround, hfinite, Bool.false_eq_true, if_false, hpos.ne']

/-- An exponent of at most five digits is read in full. -/
lemma Numeral.double?_eq_nearest? {n : Numeral}
    (h : ∀ e, n.exponent = some e → value e.digits < 100000) : n.double? = n.nearest? := by
  obtain ⟨negative, whole, fraction, exponent⟩ := n
  cases exponent with
  | none => rfl
  | some e => rw [Numeral.double?, Option.map_some, Exponent.curbed, if_pos (h e rfl)]

/-- The exponent in the literal of a double has at most three digits.

**Proof sketch.** The shortest digits lie in the interval of the double, and so between `2 ^
(-1075)` and `2 ^ 1025`. The place of the point is then between two powers of ten of three digits,
by `amount_bounds`. -/
lemma Double.Valid.exponent_lt {d : Double} (hd : d.Valid) {e : Exponent}
    (he : (Numeral.ofDouble d).exponent = some e) : value e.digits < 1000 := by
  cases hb : d.magnitude with
  | none =>
    rw [Numeral.ofDouble, hb] at he
    cases he
  | some b =>
    obtain ⟨-, hpos, -⟩ := hd b hb
    obtain ⟨hmem, n, hn, hdigits⟩ := shortest_mem (proper_interval hpos)
    obtain ⟨hlow, hhigh⟩ := hd.bounds hb hmem
    set f := (b.interval double false).shortest
    have hamount : f.amount = n * 10 ^ (f.point - (Decimal.ofNat n).length) := by
      rw [Figures.amount, hdigits, value_ofNat]
    obtain ⟨hfirst, hbefore⟩ := Json.amount_bounds hn (f.point - (Decimal.ofNat n).length)
    rw [← hamount] at hfirst hbefore
    have hupper := lt_of_zpow_le hhigh hfirst
    have hlower := lt_of_lt_zpow hlow hbefore
    rw [Numeral.ofDouble, hb] at he
    simp only [Numeral.ofFigures] at he
    split at he
    · cases he
    · obtain rfl := Option.some.inj he
      rw [value_exponentDigits]
      change (f.point - 1).natAbs < 1000
      omega

/-- **The literal of a double is turned into the double.**

**Proof sketch.** The exponent is short by `Double.Valid.exponent_lt`, so nothing of it is cut. What
is left is rounding, and the shortest digits lie in the interval of the double. -/
theorem Numeral.double?_ofDouble {d : Double} (hd : d.Valid) :
    (Numeral.ofDouble d).double? = some d := by
  have hexponent : ∀ e, (Numeral.ofDouble d).exponent = some e → value e.digits < 100000 :=
    fun e he => (hd.exponent_lt he).trans (by norm_num)
  rw [Numeral.double?_eq_nearest? hexponent]
  cases hb : d.magnitude with
  | none =>
    obtain ⟨negative, magnitude⟩ := d
    obtain rfl : magnitude = none := hb
    rfl
  | some b =>
    obtain ⟨hmem, -⟩ := hd.shortest hb
    have hd' : Double.Valid ⟨d.negative, some b⟩ := hb ▸ hd
    rw [Numeral.nearest?_eq_of_mem hd' hmem, Numeral.negative_ofDouble, ← hb]

end Json

end SchemaKit
