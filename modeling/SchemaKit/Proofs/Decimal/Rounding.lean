import Mathlib.Algebra.Order.Field.Power
import Mathlib.Algebra.Order.Floor.Semifield
import Mathlib.Data.Rat.Floor
import Mathlib.Tactic.FieldSimp
import Mathlib.Tactic.Linarith
import Mathlib.Tactic.Positivity
import SchemaKit.Decimal.Shortest

/-!
# Rounding to the nearest double

Quotients of natural numbers are followed through the rounding to a double as rational numbers. A
quotient that lies in the rounding interval of a double is rounded to that double, which is what the
interval is meant for.

## Main definitions

* `SchemaKit.Decimal.RoundsTo` — a number is within half a unit of an integer, ties to even.
* `SchemaKit.Decimal.Binary.IsDouble` — mantissa and exponent are those of a double.
* `SchemaKit.Decimal.Interval.Mem` — a rational number lies in an interval.

## Main results

* `SchemaKit.Decimal.roundDiv_eq_iff` — what an integer quotient is rounded to.
* `SchemaKit.Decimal.logFloor_spec` — the integer part of the binary logarithm.
* `SchemaKit.Decimal.isDouble_round` — rounding gives a double.
* `SchemaKit.Decimal.round_eq_of_mem` — a number in the interval of a double is rounded to it.
-/

namespace SchemaKit.Decimal

/-! ## Rounding to an integer -/

/-- A number is within half a unit of an integer, and less than half a unit if the integer is odd. -/
def RoundsTo (x : ℚ) (m : ℕ) : Prop :=
  (m : ℚ) - 1 / 2 ≤ x ∧ x ≤ m + 1 / 2 ∧ (m % 2 = 1 → (m : ℚ) - 1 / 2 < x ∧ x < m + 1 / 2)

/-- A number rounds to one integer only.

**Proof sketch.** Two integers within half a unit of one number are at most one apart, and if they
are one apart the number is half a unit from both; but one of the two is odd. -/
lemma RoundsTo.le {x : ℚ} {m n : ℕ} (hm : RoundsTo x m) (hn : RoundsTo x n) : m ≤ n := by
  obtain ⟨hm₁, hm₂, hodd⟩ := hm
  obtain ⟨hn₁, hn₂, hodd'⟩ := hn
  by_contra hlt
  have hclose : (m : ℚ) ≤ (n + 1 : ℕ) := by push_cast; linarith
  obtain rfl : m = n + 1 := by
    have := Nat.cast_le.1 hclose
    omega
  push_cast at hm₁ hodd
  rcases Nat.mod_two_eq_zero_or_one n with heven | hn
  · have := (hodd (by omega)).1
    linarith
  · have := (hodd' hn).2
    linarith

/-- A quotient is its integer part and the remainder over the denominator. -/
lemma div_eq_add_mod_div (num : ℕ) {den : ℕ} (hden : 0 < den) :
    (num : ℚ) / den = (num / den : ℕ) + ((num % den : ℕ) : ℚ) / den := by
  have hpos : (0 : ℚ) < den := by exact_mod_cast hden
  have hsum : ((num / den : ℕ) : ℚ) * den + (num % den : ℕ) = num := by
    exact_mod_cast Nat.div_add_mod' num den
  field_simp
  linarith

/-- The quotient is within half a unit of what it is rounded to.

**Proof sketch.** The quotient is its integer part and a rest below one. The rest is compared with
one half by comparing twice the remainder with the divisor; in the middle, the parity of the integer
part decides. -/
lemma roundsTo_roundDiv (num : ℕ) {den : ℕ} (hden : 0 < den) :
    RoundsTo ((num : ℚ) / den) (roundDiv num den) := by
  have hpos : (0 : ℚ) < den := by exact_mod_cast hden
  set r := num % den with hr
  have hrest : (0 : ℚ) ≤ (r : ℚ) / den := by positivity
  have hone : (r : ℚ) / den < 1 := by
    rw [div_lt_one hpos]
    exact_mod_cast Nat.mod_lt num hden
  have hnext : ((num / den + 1 : ℕ) : ℚ) = (num / den : ℕ) + 1 := Nat.cast_succ _
  rw [div_eq_add_mod_div num hden, ← hr]
  simp only [roundDiv, ← hr]
  split
  · next hlow =>
    have hhalf : (r : ℚ) / den < 1 / 2 := by
      rw [div_lt_iff₀ hpos]
      have : ((2 * r : ℕ) : ℚ) < den := by exact_mod_cast hlow
      push_cast at this
      linarith
    exact ⟨by linarith, by linarith, fun _ => ⟨by linarith, by linarith⟩⟩
  · next hlow =>
    split
    · next hhigh =>
      have hhalf : 1 / 2 < (r : ℚ) / den := by
        rw [lt_div_iff₀ hpos]
        have : (den : ℚ) < ((2 * r : ℕ) : ℚ) := by exact_mod_cast hhigh
        push_cast at this
        linarith
      exact ⟨by linarith, by linarith, fun _ => ⟨by linarith, by linarith⟩⟩
    · next hhigh =>
      have hhalf : (r : ℚ) / den = 1 / 2 := by
        rw [div_eq_iff hpos.ne']
        have : ((2 * r : ℕ) : ℚ) = den := by exact_mod_cast (show 2 * r = den by omega)
        push_cast at this
        linarith
      rw [hhalf]
      split
      · next heven => exact ⟨by linarith, by linarith, fun hodd => by omega⟩
      · next hodd =>
        exact ⟨by linarith, by linarith, fun heven => by omega⟩

/-- **What a quotient is rounded to**: the integer within half a unit, a half going to the even
one. -/
theorem roundDiv_eq_iff {num den m : ℕ} (hden : 0 < den) :
    roundDiv num den = m ↔ RoundsTo ((num : ℚ) / den) m := by
  constructor
  · rintro rfl
    exact roundsTo_roundDiv num hden
  · intro h
    exact le_antisymm ((roundsTo_roundDiv num hden).le h) (h.le (roundsTo_roundDiv num hden))

/-! ## The binary logarithm -/

/-- Scaling a fraction keeps its denominator positive. -/
lemma scaled_snd_pos (num : ℕ) {den : ℕ} (hden : 0 < den) (shift : ℤ) : 0 < (scaled num den shift).2 := by
  unfold scaled
  split
  · exact hden
  · exact Nat.mul_pos hden (Nat.pow_pos (by omega))

/-- A scaled fraction is the fraction times a power of two.

**Proof sketch.** By cases on the sign of the shift: a power of two is multiplied to the one or the
other part of the fraction. -/
lemma scaled_div (num den : ℕ) (shift : ℤ) :
    ((scaled num den shift).1 : ℚ) / (scaled num den shift).2 = num / den * 2 ^ shift := by
  unfold scaled
  split
  · next h =>
    obtain ⟨k, rfl⟩ := Int.eq_ofNat_of_zero_le h
    simp only [Int.toNat_natCast, Nat.pow_eq, Nat.cast_mul, Nat.cast_pow, Nat.cast_ofNat,
      zpow_natCast]
    ring
  · next h =>
    obtain ⟨k, rfl⟩ : ∃ k : ℕ, shift = -k := ⟨shift.natAbs, by omega⟩
    simp only [neg_neg, Int.toNat_natCast, Nat.pow_eq, Nat.cast_mul, Nat.cast_pow, Nat.cast_ofNat,
      zpow_neg, zpow_natCast, ← div_eq_mul_inv, div_div]

section

variable {num den : ℕ}

/-- A positive number lies between two powers of two.

**Proof sketch.** The bounds of the standard library for natural numbers, as powers with an integer
exponent. -/
lemma log2_bounds {n : ℕ} (hn : 0 < n) :
    (2 : ℚ) ^ (n.log2 : ℤ) ≤ n ∧ (n : ℚ) < 2 ^ ((n.log2 : ℤ) + 1) := by
  constructor
  · have := Nat.log2_self_le hn.ne'
    rw [zpow_natCast]
    exact_mod_cast this
  · have := Nat.lt_log2_self (n := n)
    have hcast : ((n.log2 : ℤ) + 1) = ((n.log2 + 1 : ℕ) : ℤ) := by push_cast; rfl
    rw [hcast, zpow_natCast]
    exact_mod_cast this

/-- **The integer part of the binary logarithm.**

**Proof sketch.** The difference of the binary logarithms of both parts of the fraction is at most
one off, in either direction. The test compares the fraction with the power of two between these
bounds, and so decides which one it is. -/
theorem logFloor_spec (hnum : 0 < num) (hden : 0 < den) :
    (2 : ℚ) ^ logFloor num den ≤ num / den ∧ (num : ℚ) / den < 2 ^ (logFloor num den + 1) := by
  have hpos : (0 : ℚ) < den := by exact_mod_cast hden
  obtain ⟨hn₁, hn₂⟩ := log2_bounds hnum
  obtain ⟨hd₁, hd₂⟩ := log2_bounds hden
  set k : ℤ := (num.log2 : ℤ) - den.log2 with hk
  have htwo : (2 : ℚ) ≠ 0 := two_ne_zero
  -- the quotient is less than a factor of two away from `2 ^ k`
  have hbelow : (2 : ℚ) ^ (k - 1) ≤ num / den := by
    rw [le_div_iff₀ hpos]
    calc (2 : ℚ) ^ (k - 1) * den ≤ 2 ^ (k - 1) * 2 ^ ((den.log2 : ℤ) + 1) := by gcongr
      _ = 2 ^ (num.log2 : ℤ) := by rw [← zpow_add₀ htwo]; congr 1; omega
      _ ≤ num := hn₁
  have habove : (num : ℚ) / den < 2 ^ (k + 1) := by
    rw [div_lt_iff₀ hpos]
    calc (num : ℚ) < 2 ^ ((num.log2 : ℤ) + 1) := hn₂
      _ = 2 ^ (k + 1) * 2 ^ (den.log2 : ℤ) := by rw [← zpow_add₀ htwo]; congr 1; omega
      _ ≤ 2 ^ (k + 1) * den := by gcongr
  -- the test decides on which side of `2 ^ k` it lies
  have htest : (scaled num den (-k)).2 ≤ (scaled num den (-k)).1 ↔ (2 : ℚ) ^ k ≤ num / den := by
    have hscaled : (0 : ℚ) < (scaled num den (-k)).2 := by exact_mod_cast scaled_snd_pos num hden _
    rw [← Nat.cast_le (α := ℚ), ← one_le_div hscaled, scaled_div, zpow_neg, ← div_eq_mul_inv,
      one_le_div (by positivity)]
  simp only [logFloor, ← hk]
  split
  · next h => exact ⟨htest.1 h, habove⟩
  · next h =>
    refine ⟨hbelow, ?_⟩
    rw [sub_add_cancel]
    exact lt_of_not_ge fun hle => h (htest.2 hle)

/-- A quotient is below a power of two iff its logarithm is. -/
lemma logFloor_lt_iff (hnum : 0 < num) (hden : 0 < den) {k : ℤ} :
    logFloor num den < k ↔ (num : ℚ) / den < 2 ^ k := by
  obtain ⟨hlow, hhigh⟩ := logFloor_spec hnum hden
  constructor
  · intro h
    exact hhigh.trans_le (zpow_le_zpow_right₀ one_le_two h)
  · intro h
    exact (zpow_lt_zpow_iff_right₀ one_lt_two).1 (hlow.trans_lt h)

end

/-! ## Rounding to a double -/

/-- Mantissa and exponent are those of a double, or of zero: the mantissa has 53 bits, and exactly
53 unless the exponent is the least one. -/
structure Binary.IsDouble (b : Binary) : Prop where
  lt : b.mantissa < 2 ^ 53
  least : -1074 ≤ b.exponent
  normal : b.exponent = -1074 ∨ 2 ^ 52 ≤ b.mantissa

/-- The exponent in which a quotient is rounded. -/
def unitExponent (num den : ℕ) : ℤ := max (logFloor num den - 52) (-1074)

section

variable {num den : ℕ}

/-- A quotient is rounded in units of its exponent; a mantissa with one bit too many is halved. -/
lemma round_eq_of_roundsTo (hden : 0 < den) {m : ℕ}
    (hm : RoundsTo (num / den * 2 ^ (-unitExponent num den)) m) :
    double.round num den =
      if m = 2 ^ 53 then ⟨2 ^ 52, unitExponent num den + 1⟩ else ⟨m, unitExponent num den⟩ := by
  rw [← scaled_div] at hm
  rw [← (roundDiv_eq_iff (scaled_snd_pos num hden _)).2 hm]
  rfl

/-- In units of its exponent a quotient has at most 53 bits before the point.

**Proof sketch.** The quotient is less than the power of two behind its logarithm, and the exponent
of the unit is at least the logarithm less 52. -/
lemma scaled_lt (hnum : 0 < num) (hden : 0 < den) :
    (num : ℚ) / den * 2 ^ (-unitExponent num den) < 2 ^ 53 := by
  obtain ⟨-, hhigh⟩ := logFloor_spec hnum hden
  have hle : logFloor num den + 1 ≤ 53 + unitExponent num den := by
    have := le_max_left (logFloor num den - 52) (-1074)
    rw [unitExponent]
    omega
  calc (num : ℚ) / den * 2 ^ (-unitExponent num den)
      < 2 ^ (logFloor num den + 1) * 2 ^ (-unitExponent num den) := by gcongr
    _ ≤ 2 ^ (53 + unitExponent num den) * 2 ^ (-unitExponent num den) := by
        gcongr
        exact one_le_two
    _ = 2 ^ 53 := by
        rw [← zpow_add₀ two_ne_zero, add_neg_cancel_right]
        norm_num

/-- Above the least exponent a quotient has 53 bits before the point in units of its exponent.

**Proof sketch.** Above the least exponent, the exponent of the unit is the logarithm less 52. So
the quotient, which is at least the power of its logarithm, is at least 52 bits in its unit. -/
lemma le_scaled (hnum : 0 < num) (hden : 0 < den) (h : unitExponent num den ≠ -1074) :
    (2 : ℚ) ^ 52 ≤ num / den * 2 ^ (-unitExponent num den) := by
  obtain ⟨hlow, -⟩ := logFloor_spec hnum hden
  have heq : logFloor num den = 52 + unitExponent num den := by
    rw [unitExponent] at h ⊢
    omega
  calc (2 : ℚ) ^ 52 = 2 ^ (52 + unitExponent num den) * 2 ^ (-unitExponent num den) := by
        rw [← zpow_add₀ two_ne_zero, add_neg_cancel_right]
        norm_num
    _ ≤ num / den * 2 ^ (-unitExponent num den) := by
        rw [← heq]
        gcongr

/-- **Rounding gives a double.**

**Proof sketch.** What the quotient in its unit is rounded to is at most 53 bits, by `scaled_lt`. If
it has reached the power of two, it is halved and the exponent goes up. Otherwise it has 53 bits
unless the exponent is the least one, by `le_scaled`. -/
theorem isDouble_round (hnum : 0 < num) (hden : 0 < den) : (double.round num den).IsDouble := by
  have hleast : -1074 ≤ unitExponent num den := le_max_right _ _
  have hlt := scaled_lt hnum hden
  have hrounds := roundsTo_roundDiv (scaled num den (-unitExponent num den)).1
    (scaled_snd_pos num hden (-unitExponent num den))
  rw [scaled_div] at hrounds
  rw [round_eq_of_roundsTo hden hrounds]
  generalize roundDiv _ _ = m at hrounds ⊢
  obtain ⟨hbelow, habove, -⟩ := hrounds
  have hm : m ≤ 2 ^ 53 := by
    have : (m : ℚ) < (2 ^ 53 + 1 : ℕ) := by push_cast; linarith
    exact Nat.lt_succ_iff.1 (Nat.cast_lt.1 this)
  split
  · exact ⟨by norm_num, by simp only; omega, .inr le_rfl⟩
  · next hne =>
    refine ⟨by simp only; omega, hleast, ?_⟩
    by_cases hexponent : unitExponent num den = -1074
    · exact .inl hexponent
    · right
      have hge := le_scaled hnum hden hexponent
      have : ((2 ^ 52 : ℕ) : ℚ) < (m + 1 : ℕ) := by push_cast; linarith
      exact Nat.lt_succ_iff.1 (Nat.cast_lt.1 this)

end

/-! ## Rounding intervals -/

/-- A rational number lies in an interval. -/
def Interval.Mem (i : Interval) (x : ℚ) : Prop :=
  (i.low : ℚ) / i.den ≤ x ∧ x ≤ i.high / i.den ∧
    (i.closed = false → (i.low : ℚ) / i.den < x ∧ x < i.high / i.den)

section

variable (b : Binary)

/-- How many quarters of a unit the interval of a double reaches below it. Just below a power of two
the unit is half as large. -/
def Binary.quarters : ℕ :=
  if b.mantissa = 2 ^ 52 ∧ b.exponent ≠ -1074 then 1 else 2

/-- The interval of a double reaches below it, by half a unit at most. -/
lemma Binary.quarters_bounds : 0 < b.quarters ∧ b.quarters ≤ 2 := by
  rw [Binary.quarters]
  split <;> decide

/-- The ends and the middle of the interval of a double, in quarters of a unit.

**Proof sketch.** The interval of a double is defined by the same cases on the exponent as `scaled`,
with the quarters below the middle that `Binary.quarters` names. -/
lemma interval_scaled :
    ((b.interval double false).low, (b.interval double false).den) =
        scaled (4 * b.mantissa - b.quarters) 4 b.exponent ∧
      ((b.interval double false).mid, (b.interval double false).den) =
        scaled (4 * b.mantissa) 4 b.exponent ∧
      ((b.interval double false).high, (b.interval double false).den) =
        scaled (4 * b.mantissa + 2) 4 b.exponent := by
  have hquarters : (if (!false && b.mantissa == Nat.pow 2 (double.bits - 1) &&
      double.least != some b.exponent) = true then 1 else 2) = b.quarters := by
    simp only [Binary.quarters, double, Bool.not_false, Bool.true_and, Bool.and_eq_true,
      beq_iff_eq, bne_iff_ne, ne_eq, Option.some.injEq, eq_comm (a := (-1074 : ℤ))]
    rfl
  simp only [Binary.interval, hquarters, scaled]
  split <;> exact ⟨rfl, rfl, rfl⟩

/-- The lower end of the interval of a double. -/
lemma interval_low_div :
    ((b.interval double false).low : ℚ) / (b.interval double false).den =
      ((4 * b.mantissa - b.quarters : ℕ) : ℚ) / 4 * 2 ^ b.exponent := by
  have h := scaled_div (4 * b.mantissa - b.quarters) 4 b.exponent
  rwa [← (interval_scaled b).1, Nat.cast_ofNat] at h

/-- The middle of the interval of a double is its value. -/
lemma interval_mid_div :
    ((b.interval double false).mid : ℚ) / (b.interval double false).den =
      b.mantissa * 2 ^ b.exponent := by
  have h := scaled_div (4 * b.mantissa) 4 b.exponent
  rw [← (interval_scaled b).2.1] at h
  rw [h]
  push_cast
  ring

/-- The upper end of the interval of a double. -/
lemma interval_high_div :
    ((b.interval double false).high : ℚ) / (b.interval double false).den =
      (4 * b.mantissa + 2) / 4 * 2 ^ b.exponent := by
  have h := scaled_div (4 * b.mantissa + 2) 4 b.exponent
  rw [← (interval_scaled b).2.2] at h
  rw [h]
  push_cast
  rfl

end

/-- A number in the interval of a double, in units of the double.

**Proof sketch.** The bounds of the interval are those of the double in quarters of its unit.
Dividing by the unit turns the one into the other, and the ends belong to the interval iff the
mantissa is even. -/
lemma units_of_mem {b : Binary} (hpos : 0 < b.mantissa) {x : ℚ}
    (hx : (b.interval double false).Mem x) :
    (b.mantissa : ℚ) - b.quarters / 4 ≤ x * 2 ^ (-b.exponent) ∧
      x * 2 ^ (-b.exponent) ≤ b.mantissa + 1 / 2 ∧
      (b.mantissa % 2 = 1 → (b.mantissa : ℚ) - b.quarters / 4 < x * 2 ^ (-b.exponent) ∧
        x * 2 ^ (-b.exponent) < b.mantissa + 1 / 2) := by
  have hunit : (0 : ℚ) < 2 ^ b.exponent := by positivity
  have hquarters : b.quarters ≤ 4 * b.mantissa := by
    have := b.quarters_bounds.2
    omega
  have hlow : ((4 * b.mantissa - b.quarters : ℕ) : ℚ) / 4 = b.mantissa - b.quarters / 4 := by
    rw [Nat.cast_sub hquarters]
    push_cast
    ring
  have hhigh : (4 * (b.mantissa : ℚ) + 2) / 4 = b.mantissa + 1 / 2 := by ring
  obtain ⟨h₁, h₂, hopen⟩ := hx
  rw [interval_low_div, interval_high_div, hlow, hhigh] at hopen
  rw [interval_low_div, hlow] at h₁
  rw [interval_high_div, hhigh] at h₂
  rw [zpow_neg, ← div_eq_mul_inv, le_div_iff₀ hunit, div_le_iff₀ hunit, lt_div_iff₀ hunit,
    div_lt_iff₀ hunit]
  refine ⟨h₁, h₂, fun hodd => hopen ?_⟩
  simp [Binary.interval, hodd]

/-- Comparing a number with a power of two in other units. -/
lemma mul_zpow_neg_lt_iff {x : ℚ} {e : ℤ} {k : ℕ} : x * 2 ^ (-e) < 2 ^ k ↔ x < 2 ^ (k + e) := by
  have hunit : (0 : ℚ) < 2 ^ e := by positivity
  rw [zpow_neg, ← div_eq_mul_inv, div_lt_iff₀ hunit, zpow_add₀ two_ne_zero, zpow_natCast]

/-- **A number in the interval of a double is rounded to it.**

**Proof sketch.** Let the double be `m · 2 ^ e`. In units of `2 ^ e` the number is within half a unit
of `m`, so that its exponent is at most `e`, and it is rounded to `m` if it is `e`. The exponent is
less than `e` only below a power of two. There the number is within a quarter of a unit of it, and
in the smaller unit it is rounded up to the power of two. -/
theorem round_eq_of_mem {b : Binary} (hb : b.IsDouble) (hpos : 0 < b.mantissa) {num den : ℕ}
    (hnum : 0 < num) (hden : 0 < den)
    (hx : (b.interval double false).Mem ((num : ℚ) / den)) : double.round num den = b := by
  obtain ⟨hlow, hhigh, hopen⟩ := units_of_mem hpos hx
  obtain ⟨m, e⟩ := b
  obtain ⟨hm, hleast, hnormal⟩ := hb
  simp only at hm hleast hnormal hlow hhigh hopen
  set x := (num : ℚ) / den with hxdef
  have hquarters : (Binary.quarters ⟨m, e⟩ : ℚ) ≤ 2 := by
    exact_mod_cast (Binary.quarters_bounds ⟨m, e⟩).2
  have hrounds : RoundsTo (x * 2 ^ (-e)) m :=
    ⟨by linarith, hhigh, fun hodd => ⟨by linarith [hopen hodd], (hopen hodd).2⟩⟩
  by_cases hunit : unitExponent num den = e
  · rw [← hunit] at hrounds
    rw [round_eq_of_roundsTo hden hrounds, if_neg hm.ne, hunit]
  · -- the exponent is at most `e`, so it is less than `e`, and `e` is not the least one
    have hm' : (m : ℚ) + 1 ≤ 2 ^ 53 := by exact_mod_cast hm
    have hlog : logFloor num den < (53 : ℕ) + e :=
      (logFloor_lt_iff hnum hden).2 (mul_zpow_neg_lt_iff.1 (by linarith))
    have hlt : logFloor num den < (52 : ℕ) + e ∧ -1074 < e := by
      rw [unitExponent] at hunit
      omega
    have hnormal' : 2 ^ 52 ≤ m := hnormal.resolve_left (by omega)
    -- so the double is a power of two, and the number is just below it
    have hbelow : x * 2 ^ (-e) < 2 ^ 52 :=
      mul_zpow_neg_lt_iff.2 ((logFloor_lt_iff hnum hden).1 hlt.1)
    obtain rfl : m = 2 ^ 52 := by
      have : (m : ℚ) < (2 ^ 52 + 1 : ℕ) := by push_cast; linarith
      have := Nat.cast_lt.1 this
      omega
    have hquarter : Binary.quarters ⟨2 ^ 52, e⟩ = 1 := if_pos ⟨rfl, hlt.2.ne'⟩
    rw [hquarter] at hlow
    push_cast at hlow
    have hunit' : unitExponent num den = e - 1 := by
      have hge : ¬logFloor num den < (51 : ℕ) + e := by
        rw [logFloor_lt_iff hnum hden, ← mul_zpow_neg_lt_iff]
        norm_num at hlow ⊢
        linarith
      rw [unitExponent]
      omega
    have hdouble : x * 2 ^ (-(e - 1)) = 2 * (x * 2 ^ (-e)) := by
      rw [neg_sub, sub_eq_add_neg, zpow_add₀ two_ne_zero]
      ring
    have hrounds' : RoundsTo (x * 2 ^ (-unitExponent num den)) (2 ^ 53) := by
      rw [hunit', hdouble]
      refine ⟨?_, ?_, by norm_num⟩ <;> push_cast <;> linarith
    rw [round_eq_of_roundsTo hden hrounds', if_pos rfl, hunit', sub_add_cancel]

end SchemaKit.Decimal
