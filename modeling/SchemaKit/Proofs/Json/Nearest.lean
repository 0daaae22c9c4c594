import SchemaKit.Proofs.Json.Double

/-!
# The double nearest to a literal

Rounding goes to a double than which no other one is nearer, so a literal whose value is that of a
double is turned into it. Where an exponent has too many digits its first ones are read only, and
the double that comes out is never the value that was written.

## Main definitions

* `SchemaKit.Json.Numeral.quantity`, `SchemaKit.Json.Double.quantity` — the values of literals and
  doubles.
* `SchemaKit.Json.Numeral.IsFaithful` — the literal is read as it is written.

## Main results

* `SchemaKit.Decimal.round_nearest` — no double is nearer to a quotient than the one it is rounded
  to.
* `SchemaKit.Json.Numeral.nearest?_nearest` — the same for literals, signs included.
* `SchemaKit.Json.Numeral.IsFaithful.exists_double?_eq`,
  `SchemaKit.Json.Numeral.quantity_ne_of_not_isFaithful` — faithful literals are turned into doubles
  with their values, and the others are not.
-/

namespace SchemaKit

namespace Decimal

/-! ## Binary numbers as rational numbers -/

/-- The value of a binary number. -/
def Binary.amount (b : Binary) : ℚ := b.mantissa * 2 ^ b.exponent

/-- Binary numbers have no sign. -/
lemma Binary.amount_nonneg (b : Binary) : 0 ≤ b.amount := by
  rw [Binary.amount]
  positivity

/-- Being a natural number is decided exactly.

**Proof sketch.** With an exponent that is not negative the value is the mantissa times a power of
two. With a negative one, it is a natural number iff the power divides the mantissa. -/
lemma Binary.toNat?_eq_some_iff {b : Binary} {m : ℕ} : b.toNat? = some m ↔ b.amount = m := by
  obtain ⟨mantissa, exponent⟩ := b
  simp only [Binary.toNat?, Binary.amount]
  split
  · next h =>
    obtain ⟨k, rfl⟩ := Int.eq_ofNat_of_zero_le h
    rw [Option.some.injEq, Int.toNat_natCast, zpow_natCast]
    show mantissa * 2 ^ k = m ↔ _
    exact_mod_cast Iff.rfl
  · next h =>
    obtain ⟨k, rfl⟩ : ∃ k : ℕ, exponent = -k := ⟨exponent.natAbs, by omega⟩
    have hpow : (0 : ℚ) < 2 ^ k := by positivity
    have hamount : (mantissa : ℚ) * 2 ^ (-k : ℤ) = m ↔ mantissa = m * 2 ^ k := by
      rw [zpow_neg, zpow_natCast, ← div_eq_mul_inv, div_eq_iff hpow.ne']
      exact_mod_cast Iff.rfl
    rw [hamount, neg_neg, Int.toNat_natCast]
    show (if mantissa % 2 ^ k = 0 then some (mantissa / 2 ^ k) else none) = some m ↔ _
    split
    · next hmod =>
      have hdvd := Nat.div_mul_cancel (Nat.dvd_of_mod_eq_zero hmod)
      rw [Option.some.injEq]
      constructor
      · rintro rfl
        exact hdvd.symm
      · rintro rfl
        exact Nat.mul_div_cancel m (Nat.two_pow_pos k)
    · next hmod =>
      refine ⟨by rintro ⟨⟩, fun heq => absurd ?_ hmod⟩
      rw [heq, Nat.mul_mod_left]

/-! ## No double is nearer -/

/-- The integer that a number rounds to is at most one half away. -/
lemma RoundsTo.abs_sub_le_half {x : ℚ} {m : ℕ} (h : RoundsTo x m) : |x - m| ≤ 1 / 2 :=
  abs_le.2 ⟨by linarith [h.1], by linarith [h.2.1]⟩

/-- The integer that a number rounds to is a nearest one. -/
lemma RoundsTo.nearest {x : ℚ} {m : ℕ} (h : RoundsTo x m) (k : ℤ) : |x - m| ≤ |x - k| := by
  have hhalf := h.abs_sub_le_half
  rcases eq_or_ne (m : ℤ) k with rfl | hne
  · exact le_rfl
  · have hone : (1 : ℚ) ≤ |(m : ℚ) - k| := by exact_mod_cast Int.one_le_abs (sub_ne_zero.2 hne)
    have htriangle := abs_sub_le (m : ℚ) x k
    rw [abs_sub_comm (m : ℚ) x] at htriangle
    linarith

/-- Distances in units of a power of two. -/
lemma abs_sub_mul_zpow (x y : ℚ) (u : ℤ) : |x - y * 2 ^ u| = |x * 2 ^ (-u) - y| * 2 ^ u := by
  have hunit : (0 : ℚ) < 2 ^ u := by positivity
  rw [← abs_of_pos hunit, ← abs_mul, abs_of_pos hunit, sub_mul, mul_assoc, ← zpow_add₀ two_ne_zero,
    neg_add_cancel, zpow_zero, mul_one]

/-- In units of its exponent, what a quotient is rounded to is the integer that it rounds to.

**Proof sketch.** A quotient rounds to some integer in units of its exponent. If rounding up leaves
the range of the mantissa, the next exponent denotes the same value. -/
lemma exists_amount_round_eq (num : ℕ) {den : ℕ} (hden : 0 < den) :
    ∃ m, RoundsTo (num / den * 2 ^ (-unitExponent num den)) m ∧
      (double.round num den).amount = m * 2 ^ unitExponent num den := by
  have hrounds := roundsTo_roundDiv (scaled num den (-unitExponent num den)).1
    (scaled_snd_pos num hden (-unitExponent num den))
  rw [scaled_div] at hrounds
  refine ⟨_, hrounds, ?_⟩
  rw [round_eq_of_roundsTo hden hrounds]
  split
  · next hm =>
    rw [hm, Binary.amount, zpow_add_one₀ two_ne_zero]
    push_cast
    ring
  · rfl

/-- What a quotient is rounded to is off by half of itself at most, unless it is zero.

**Proof sketch.** The integer that the quotient rounds to is at least one, and rounding is off by
one half of a unit at most. -/
lemma abs_sub_round_le {num den : ℕ} (hden : 0 < den) (hne : (double.round num den).amount ≠ 0) :
    |(num : ℚ) / den - (double.round num den).amount| ≤ (double.round num den).amount / 2 := by
  obtain ⟨m, hrounds, hamount⟩ := exists_amount_round_eq num hden
  have hunit : (0 : ℚ) < 2 ^ unitExponent num den := by positivity
  have hm : (1 : ℚ) ≤ m := by
    rw [hamount] at hne
    exact_mod_cast Nat.one_le_iff_ne_zero.2 fun hzero => hne (by rw [hzero, Nat.cast_zero, zero_mul])
  rw [hamount, abs_sub_mul_zpow, mul_div_right_comm]
  gcongr
  exact hrounds.abs_sub_le_half.trans (by linarith)

/-- **No double is nearer to a quotient than the one it is rounded to.**

**Proof sketch.** In units of its exponent the quotient is rounded to a nearest integer. A double
with at least this exponent is an integer in these units. A smaller exponent than that of the
quotient makes a double less than `2 ^ 52` units, and the quotient is not. -/
theorem round_nearest {num den : ℕ} (hnum : 0 < num) (hden : 0 < den) {b : Binary} (hb : b.IsDouble) :
    |(num : ℚ) / den - (double.round num den).amount| ≤ |(num : ℚ) / den - b.amount| := by
  obtain ⟨m, hrounds, hamount⟩ := exists_amount_round_eq num hden
  set u := unitExponent num den with hu
  set x := (num : ℚ) / den with hx
  have hunit : (0 : ℚ) < 2 ^ u := by positivity
  have hinteger (k : ℤ) : |x - (double.round num den).amount| ≤ |x - k * 2 ^ u| := by
    rw [hamount, abs_sub_mul_zpow, abs_sub_mul_zpow]
    exact mul_le_mul_of_nonneg_right (hrounds.nearest k) hunit.le
  rcases le_or_gt u b.exponent with hle | hlt
  · obtain ⟨k, hk⟩ := Int.eq_ofNat_of_zero_le (sub_nonneg.2 hle)
    have hmultiple : b.amount = ((b.mantissa * 2 ^ k : ℕ) : ℤ) * 2 ^ u := by
      rw [Binary.amount, show b.exponent = (k : ℤ) + u by omega, zpow_add₀ two_ne_zero, zpow_natCast]
      push_cast
      ring
    rw [hmultiple]
    exact hinteger _
  · have hnormal := le_scaled hnum hden (by have := hb.least; omega)
    rw [← hu, ← hx] at hnormal
    have hbound : (2 : ℚ) ^ 52 * 2 ^ u ≤ x := by
      calc (2 : ℚ) ^ 52 * 2 ^ u ≤ x * 2 ^ (-u) * 2 ^ u := by gcongr
        _ = x := by rw [mul_assoc, ← zpow_add₀ two_ne_zero, neg_add_cancel, zpow_zero, mul_one]
    have hsmall : b.amount ≤ 2 ^ 52 * 2 ^ u := by
      have hmantissa : (b.mantissa : ℚ) ≤ 2 ^ 53 := by exact_mod_cast hb.lt.le
      calc b.amount ≤ 2 ^ 53 * 2 ^ (u - 1) := by
            rw [Binary.amount]
            gcongr
            · exact one_le_two
            · omega
        _ = 2 ^ 52 * 2 ^ u := by
            rw [zpow_sub_one₀ two_ne_zero]
            ring
    have hfirst := hinteger (2 ^ 52)
    rw [Int.cast_pow, Int.cast_ofNat] at hfirst
    rw [abs_of_nonneg (sub_nonneg.2 hbound)] at hfirst
    rw [abs_of_nonneg (sub_nonneg.2 (hsmall.trans hbound))]
    linarith

end Decimal

namespace Json

open Decimal

/-! ## Values with their signs -/

/-- The value of a literal. -/
def Numeral.quantity (n : Numeral) : ℚ := if n.negative then -n.amount else n.amount

/-- The value of a double without its sign. -/
def Double.amount (d : Double) : ℚ := (d.magnitude.getD ⟨0, -1074⟩).amount

/-- The value of a double. -/
def Double.quantity (d : Double) : ℚ := if d.negative then -d.amount else d.amount

/-- The double without a magnitude is zero, with either sign. -/
lemma Double.amount_none (negative : Bool) : Double.amount ⟨negative, none⟩ = 0 := by
  simp [Double.amount, Binary.amount]

/-- Without its sign a numeral is not negative. -/
lemma Numeral.amount_nonneg (n : Numeral) : 0 ≤ n.amount := by
  rw [Numeral.amount]
  positivity

/-- The absolute value of a numeral is its value without the sign. -/
lemma Numeral.abs_quantity (n : Numeral) : |n.quantity| = n.amount := by
  rw [Numeral.quantity]
  split
  · rw [abs_neg, abs_of_nonneg n.amount_nonneg]
  · rw [abs_of_nonneg n.amount_nonneg]

/-- The absolute value of a double is its value without the sign. -/
lemma Double.abs_quantity (d : Double) : |d.quantity| = d.amount := by
  have hnonneg : 0 ≤ d.amount := Binary.amount_nonneg _
  rw [Double.quantity]
  split
  · rw [abs_neg, abs_of_nonneg hnonneg]
  · rw [abs_of_nonneg hnonneg]

/-- Without its sign a double, zero among them, is a binary number of 53 bits. -/
lemma Double.Valid.isDouble {d : Double} (hd : d.Valid) : (d.magnitude.getD ⟨0, -1074⟩).IsDouble := by
  cases hb : d.magnitude with
  | none => exact ⟨by norm_num, le_rfl, .inl rfl⟩
  | some b => exact (hd b hb).1

/-! ## The nearest double -/

/-- A double is zero or no less than the least one.

**Proof sketch.** A double that is not zero has a mantissa of at least one and an exponent of at
least -1074. -/
lemma Double.Valid.amount_cases {d : Double} (hd : d.Valid) :
    d.amount = 0 ∨ (2 : ℚ) ^ (-1074 : ℤ) ≤ d.amount := by
  obtain ⟨negative, magnitude⟩ := d
  cases magnitude with
  | none => exact .inl (Double.amount_none negative)
  | some b =>
    obtain ⟨hdouble, hpos, -⟩ := hd b rfl
    have hmantissa : (1 : ℚ) ≤ b.mantissa := by exact_mod_cast hpos
    right
    calc (2 : ℚ) ^ (-1074 : ℤ) ≤ 2 ^ b.exponent := zpow_le_zpow_right₀ one_le_two hdouble.least
      _ ≤ b.mantissa * 2 ^ b.exponent := le_mul_of_one_le_left (by positivity) hmantissa

/-- A literal that becomes zero is at most half the least double.

**Proof sketch.** The literal is less than ten to the power of its place, and `10 ^ (-400)` is less
than `2 ^ (-1200)`. -/
lemma Numeral.two_mul_amount_le {n : Numeral} (hcoefficient : n.coefficient ≠ 0)
    (hplaces : n.places < -400) : 2 * n.amount ≤ 2 ^ (-1074 : ℤ) := by
  have hten : (10 : ℚ) ^ (-400 : ℤ) ≤ 2 ^ (-(3 * 400) : ℤ) := by
    rw [zpow_neg, zpow_neg]
    exact inv_anti₀ (by positivity) (two_zpow_le 400)
  calc 2 * n.amount ≤ 2 * 10 ^ n.places := by
        gcongr
        exact (Numeral.amount_bounds hcoefficient).2.le
    _ ≤ 2 * 10 ^ (-400 : ℤ) := by
        gcongr
        · norm_num
    _ ≤ 2 * 2 ^ (-(3 * 400) : ℤ) := by gcongr
    _ = 2 ^ (1 + -(3 * 400) : ℤ) := by rw [zpow_one_add₀ two_ne_zero]
    _ ≤ 2 ^ (-1074 : ℤ) := zpow_le_zpow_right₀ one_le_two (by norm_num)

/-- What a literal is rounded to, apart from its sign: a nearest double.

**Proof sketch.** By the cases of rounding. For a literal that is zero there is nothing to show. A
literal far below the range is nearer to zero than to any other double, by `two_mul_amount_le`. In
all other cases it is `round_nearest`. -/
lemma Numeral.nearest?_cases {n : Numeral} {d : Double} (h : n.nearest? = some d) :
    d.negative = n.negative ∧
      ∀ d' : Double, d'.Valid → |n.amount - d.amount| ≤ |n.amount - d'.amount| := by
  rw [Numeral.nearest?] at h
  split at h
  · next hcoefficient =>
    obtain rfl := Option.some.inj h
    refine ⟨rfl, fun d' _ => ?_⟩
    rw [Double.amount_none, n.amount_eq_zero_iff.2 hcoefficient, sub_zero, abs_zero]
    exact abs_nonneg _
  · next hcoefficient =>
    obtain ⟨hnum, hden, hratio⟩ := Numeral.ratio_spec hcoefficient
    split at h
    · cases h
    · split at h
      · next hplaces =>
        obtain rfl := Option.some.inj h
        refine ⟨rfl, fun d' hd' => ?_⟩
        have hsmall := Numeral.two_mul_amount_le hcoefficient hplaces
        rw [Double.amount_none, sub_zero, abs_of_nonneg n.amount_nonneg]
        rcases hd'.amount_cases with hzero | hlarge
        · rw [hzero, sub_zero]
          exact le_abs_self _
        · rw [abs_sub_comm, abs_of_nonneg (by linarith [n.amount_nonneg])]
          linarith
      · simp only at h
        have hnearest (d' : Double) (hd' : d'.Valid) :
            |n.amount - (double.round n.ratio.1 n.ratio.2).amount| ≤ |n.amount - d'.amount| := by
          rw [← hratio]
          exact round_nearest hnum hden hd'.isDouble
        split at h
        · cases h
        · split at h
          · next hmantissa =>
            obtain rfl := Option.some.inj h
            have hround : (double.round n.ratio.1 n.ratio.2).amount = 0 := by
              rw [Binary.amount, hmantissa, Nat.cast_zero, zero_mul]
            refine ⟨rfl, fun d' hd' => ?_⟩
            rw [Double.amount_none, ← hround]
            exact hnearest d' hd'
          · obtain rfl := Option.some.inj h
            exact ⟨rfl, hnearest⟩

/-- **No double is nearer to a literal than the one it is rounded to.**

**Proof sketch.** The sign is kept, so the distance of the two quantities is that of the amounts.
The distance to another double can only be larger than that of the amounts. -/
theorem Numeral.nearest?_nearest {n : Numeral} {d : Double} (h : n.nearest? = some d) {d' : Double}
    (hd' : d'.Valid) : |n.quantity - d.quantity| ≤ |n.quantity - d'.quantity| := by
  obtain ⟨hsign, hnearest⟩ := Numeral.nearest?_cases h
  have hsame : |n.quantity - d.quantity| = |n.amount - d.amount| := by
    rw [Numeral.quantity, Double.quantity, hsign]
    split
    · rw [neg_sub_neg, abs_sub_comm]
    · rfl
  calc |n.quantity - d.quantity| = |n.amount - d.amount| := hsame
    _ ≤ |n.amount - d'.amount| := hnearest d' hd'
    _ = |(|n.quantity| - |d'.quantity|)| := by rw [n.abs_quantity, d'.abs_quantity]
    _ ≤ |n.quantity - d'.quantity| := abs_abs_sub_abs_le_abs_sub _ _

/-- A literal with the value of a double is rounded to it.

**Proof sketch.** The value of a double lies in the middle of its own interval, so the literal is
rounded to it by `nearest?_eq_of_mem`. Zero is apart. -/
theorem Numeral.exists_nearest?_eq {n : Numeral} {d : Double} (hd : d.Valid)
    (h : n.quantity = d.quantity) : ∃ d', n.nearest? = some d' ∧ d'.quantity = n.quantity := by
  have hamount : n.amount = d.amount := by rw [← n.abs_quantity, h, d.abs_quantity]
  by_cases hcoefficient : n.coefficient = 0
  · refine ⟨⟨n.negative, none⟩, by rw [Numeral.nearest?, if_pos hcoefficient], ?_⟩
    have hzero := n.amount_eq_zero_iff.2 hcoefficient
    simp [Numeral.quantity, Double.quantity, Double.amount_none, hzero]
  · cases hb : d.magnitude with
    | none =>
      refine absurd (n.amount_eq_zero_iff.1 ?_) hcoefficient
      rw [hamount, Double.amount, hb, Option.getD_none, Binary.amount, Nat.cast_zero, zero_mul]
    | some b =>
      have hvalue : n.amount = b.amount := by rw [hamount, Double.amount, hb, Option.getD_some]
      have hvalid : Double.Valid ⟨d.negative, some b⟩ := hb ▸ hd
      have hmem : (b.interval double false).Mem n.amount := by
        rw [hvalue, Binary.amount, ← interval_mid_div]
        exact (proper_interval (hvalid b rfl).2.1).mid_mem
      refine ⟨_, Numeral.nearest?_eq_of_mem hvalid hmem, ?_⟩
      rw [Double.quantity, Numeral.quantity, hvalue]
      rfl

/-! ## Curbed exponents -/

/-- The literal with its exponent curbed. -/
def Numeral.curbed (n : Numeral) : Numeral :=
  ⟨n.negative, n.whole, n.fraction, n.exponent.map Exponent.curbed⟩

/-- A literal that denotes zero is turned into zero, whatever its exponent is. -/
lemma Numeral.double?_of_coefficient_eq_zero {n : Numeral} (h : n.coefficient = 0) :
    n.double? = some ⟨n.negative, none⟩ := by
  have hcurbed : n.curbed.coefficient = 0 := h
  show n.curbed.nearest? = _
  rw [Numeral.nearest?, if_pos hcurbed]
  rfl

/-- A literal with a long exponent is turned into a double as if the exponent were another one.

**Proof sketch.** Five digits are read at most, so the shortened exponent is less than `100000` and
differs from the one that is written. Fraction and digits are the same, so the two values differ by
a power of ten. -/
lemma Numeral.exists_amount_eq_curbed {n : Numeral} (hn : n.WellFormed) {e : Exponent}
    (he : n.exponent = some e) (hlong : 100000 ≤ value e.digits) :
    ∃ k : ℤ, k ≠ 0 ∧ n.amount = n.curbed.amount * 10 ^ k := by
  set ds := (e.digits.dropWhile (· == '0')).take 5 with hds
  have hcurbed : n.curbed.exponent = some ⟨e.capital, e.sign, ds⟩ := by
    rw [Numeral.curbed, he, Option.map_some, Exponent.curbed, if_neg (not_lt.2 hlong)]
  have hshort : value ds < 100000 := by
    have hdigits : ∀ c ∈ ds, isDigit c = true := fun c hc =>
      (hn.exponent e he).2 c ((List.dropWhile_suffix _).subset (List.mem_of_mem_take hc))
    calc value ds < 10 ^ ds.length := value_lt hdigits
      _ ≤ 10 ^ 5 := Nat.pow_le_pow_right (by norm_num) (by rw [hds, List.length_take]; omega)
      _ = 100000 := by norm_num
  refine ⟨n.power - n.curbed.power, ?_, ?_⟩
  · have hfraction : n.curbed.fraction = n.fraction := rfl
    simp only [Numeral.power, Numeral.shift, hfraction, he, hcurbed]
    split <;> omega
  · rw [Numeral.amount, Numeral.amount, mul_assoc, ← zpow_add₀ (by norm_num), add_sub_cancel]
    rfl

/-- So what is turned into a double is another number, less or more by a power of ten.

**Proof sketch.** By `exists_amount_eq_curbed` the two values differ by a power of ten that is not
one. -/
lemma Numeral.far_of_long {n : Numeral} (hn : n.WellFormed) {e : Exponent}
    (he : n.exponent = some e) (hlong : 100000 ≤ value e.digits) :
    10 * n.amount ≤ n.curbed.amount ∨ 10 * n.curbed.amount ≤ n.amount := by
  obtain ⟨k, hk, hamount⟩ := n.exists_amount_eq_curbed hn he hlong
  have hnonneg : 0 ≤ n.curbed.amount := by
    rw [Numeral.amount]
    positivity
  rw [hamount]
  rcases lt_or_gt_of_ne hk with hneg | hpos
  · have hpow : (10 : ℚ) ^ k ≤ 10 ^ (-1 : ℤ) := zpow_le_zpow_right₀ (by norm_num) (by omega)
    rw [zpow_neg_one] at hpow
    left
    nlinarith
  · have hpow : (10 : ℚ) ^ (1 : ℤ) ≤ 10 ^ k := zpow_le_zpow_right₀ (by norm_num) (by omega)
    rw [zpow_one] at hpow
    right
    nlinarith

/-- A literal that is not rounded to zero is near to what it is rounded to.

**Proof sketch.** The literal is not zero, since it is not rounded to zero. So the double is the
result of a rounding, and `abs_sub_round_le` bounds the distance by half of the double. -/
lemma Numeral.near_of_nearest? {n : Numeral} {d : Double} (h : n.nearest? = some d)
    (hd : d.amount ≠ 0) : d.amount ≤ 2 * n.amount ∧ 2 * n.amount ≤ 3 * d.amount := by
  suffices hclose : |n.amount - d.amount| ≤ d.amount / 2 by
    obtain ⟨hlow, hhigh⟩ := abs_le.1 hclose
    constructor <;> linarith
  have hzero : ∀ negative, d ≠ ⟨negative, none⟩ := by
    rintro negative rfl
    exact hd (Double.amount_none negative)
  rw [Numeral.nearest?] at h
  split at h
  · exact absurd (Option.some.inj h).symm (hzero _)
  · next hcoefficient =>
    obtain ⟨-, hden, hratio⟩ := Numeral.ratio_spec hcoefficient
    split at h
    · cases h
    · split at h
      · exact absurd (Option.some.inj h).symm (hzero _)
      · simp only at h
        split at h
        · cases h
        · split at h
          · exact absurd (Option.some.inj h).symm (hzero _)
          · obtain rfl := Option.some.inj h
            rw [← hratio]
            exact abs_sub_round_le hden hd

/-! ## Literals that are read as they are written -/

/-- A literal is read as it is written: as an integer of 64 bits, or through a double that has its
value, where the exponent is read in full. -/
def Numeral.IsFaithful (n : Numeral) : Prop :=
  n.int64?.isSome ∨ n.coefficient = 0 ∨
    (∀ e, n.exponent = some e → value e.digits < 100000) ∧
      ∃ d : Double, d.Valid ∧ d.quantity = n.quantity

/-- A plain literal has the value of its digits.

**Proof sketch.** A literal without a fraction and an exponent has the power zero, and its digits
are its value. -/
lemma Numeral.quantity_of_int? {n : Numeral} {i : ℤ} (h : n.int? = some i) : n.quantity = i := by
  obtain ⟨negative, whole, fraction, exponent⟩ := n
  obtain ⟨rfl, rfl⟩ : fraction = none ∧ exponent = none := by
    cases fraction with
    | none => cases exponent with
      | none => exact ⟨rfl, rfl⟩
      | some e => cases h
    | some ds => cases h
  obtain rfl := Option.some.inj h
  have hamount : (Numeral.mk negative whole none none).amount = value whole := by
    simp [Numeral.amount, Numeral.coefficient, Numeral.power, Numeral.shift]
  rw [Numeral.quantity, hamount]
  cases negative <;> simp

/-- **A faithful literal is turned into a double of its value**, unless it is a plain integer of 64
bits.

**Proof sketch.** By the ways of being faithful: a literal that denotes zero, or one with a short
exponent that denotes a double, which it is then rounded to. -/
theorem Numeral.IsFaithful.exists_double?_eq {n : Numeral} (h : n.IsFaithful)
    (hplain : n.int64? = none) :
    ∃ d, n.double? = some d ∧ d.quantity = n.quantity := by
  rcases h with hsome | hzero | ⟨hexponent, d, hd, hquantity⟩
  · rw [hplain] at hsome
    cases hsome
  · have hamount := n.amount_eq_zero_iff.2 hzero
    refine ⟨_, Numeral.double?_of_coefficient_eq_zero hzero, ?_⟩
    simp [Double.quantity, Double.amount_none, Numeral.quantity, hamount]
  · rw [Numeral.double?_eq_nearest? hexponent]
    exact Numeral.exists_nearest?_eq hd hquantity.symm

/-- **Only a faithful literal is turned into a double with its value.**

**Proof sketch.** If no exponent is long, a double with the value of the literal would make it
faithful. If one is long, the double is near to ten times less or ten times more than the literal,
by `far_of_long`, and so it is not the literal. -/
theorem Numeral.quantity_ne_of_not_isFaithful {n : Numeral} (hn : n.WellFormed) (h : ¬n.IsFaithful)
    {d : Double} (hd : n.double? = some d) : n.quantity ≠ d.quantity := by
  intro heq
  simp only [Numeral.IsFaithful, not_or, not_and] at h
  obtain ⟨-, hcoefficient, hfaithful⟩ := h
  by_cases hexponent : ∀ e, n.exponent = some e → value e.digits < 100000
  · rw [Numeral.double?_eq_nearest? hexponent] at hd
    exact hfaithful hexponent ⟨d, Numeral.valid_of_nearest? hd, heq.symm⟩
  · -- the exponent that is read is another one
    simp only [not_forall, not_lt] at hexponent
    obtain ⟨e, he, hlong⟩ := hexponent
    have hdouble : d.amount = n.amount := by rw [← n.abs_quantity, heq, d.abs_quantity]
    have hne : n.amount ≠ 0 := fun hzero => hcoefficient (n.amount_eq_zero_iff.1 hzero)
    have hpos : 0 < n.amount := lt_of_le_of_ne n.amount_nonneg hne.symm
    obtain ⟨hlow, hhigh⟩ := Numeral.near_of_nearest? (n := n.curbed) hd (hdouble ▸ hne)
    rw [hdouble] at hlow hhigh
    rcases n.far_of_long hn he hlong with hless | hmore <;> linarith

end Json

end SchemaKit
