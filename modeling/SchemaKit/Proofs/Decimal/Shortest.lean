import Mathlib.Data.Nat.Cast.Field
import SchemaKit.Proofs.Decimal.Rounding
import SchemaKit.Proofs.Json.Numeral

/-!
# The shortest digits of a double

The search for the shortest digits of a double ends with digits that lie in its rounding interval.
Rounding them gives back the double.

## Main definitions

* `SchemaKit.Decimal.Interval.Proper` — what the search needs of an interval.
* `SchemaKit.Decimal.Figures.amount` — the number that digits and a decimal point denote.

## Main results

* `SchemaKit.Decimal.Interval.search_mem` — the search ends within the interval.
* `SchemaKit.Decimal.proper_interval` — the interval of a double can be searched.
* `SchemaKit.Decimal.shortest_mem` — the shortest digits lie in the interval.
-/

namespace SchemaKit.Decimal

/-! ## Powers of ten -/

/-- A number with a power of ten moved into a denominator or a numerator.

**Proof sketch.** By the sign of the power. -/
lemma natCast_mul_zpow (n : ℕ) (power : ℤ) :
    (n : ℚ) * 10 ^ power =
      if 0 ≤ power then ((n * 10 ^ power.toNat : ℕ) : ℚ) else n / (10 ^ (-power).toNat : ℕ) := by
  split
  · next h =>
    obtain ⟨k, rfl⟩ := Int.eq_ofNat_of_zero_le h
    simp
  · next h =>
    obtain ⟨k, rfl⟩ : ∃ k : ℕ, power = -k := ⟨power.natAbs, by omega⟩
    simp [div_eq_mul_inv]

section

variable {n a d den : ℕ} (hd : 0 < d) (hden : 0 < den)
include hd hden

/-- Comparison of fractions of which one denominator divides the other. -/
lemma div_lt_div_mul_iff : (n : ℚ) / den < a / (d * den) ↔ n * d < a := by
  have hd' : (0 : ℚ) < d := by exact_mod_cast hd
  have hden' : (0 : ℚ) < den := by exact_mod_cast hden
  rw [div_lt_div_iff₀ hden' (by positivity), ← mul_assoc, mul_lt_mul_iff_of_pos_right hden']
  exact_mod_cast Iff.rfl

/-- Comparison of fractions of which one denominator divides the other. -/
lemma div_mul_lt_div_iff : (a : ℚ) / (d * den) < n / den ↔ a < n * d := by
  have hd' : (0 : ℚ) < d := by exact_mod_cast hd
  have hden' : (0 : ℚ) < den := by exact_mod_cast hden
  rw [div_lt_div_iff₀ (by positivity) hden', ← mul_assoc, mul_lt_mul_iff_of_pos_right hden']
  exact_mod_cast Iff.rfl

end

namespace Interval

variable {i : Interval}

/-- The test whether digits lie in an interval.

**Proof sketch.** The test multiplies out: over a common denominator, the digits times the power of
ten are a fraction, whose numerator is compared with the ends of the interval. It is brought into
this form for powers of either sign. -/
lemma has_iff (hden : 0 < i.den) {n : ℕ} {power : ℤ} :
    i.has n power = true ↔ i.Mem (n * 10 ^ power) := by
  have hpos : (0 : ℚ) < i.den := by exact_mod_cast hden
  -- the test compares over a common denominator
  obtain ⟨a, d, hd, heq, hhas⟩ : ∃ a d : ℕ, 0 < d ∧ (n : ℚ) * 10 ^ power = a / (d * i.den) ∧
      i.has n power = if i.closed then decide (i.low * d ≤ a) && decide (a ≤ i.high * d)
        else decide (i.low * d < a) && decide (a < i.high * d) := by
    by_cases h : 0 ≤ power
    · refine ⟨n * 10 ^ power.toNat * i.den, 1, one_pos, ?_, by simp [has, h]⟩
      rw [natCast_mul_zpow, if_pos h]
      push_cast
      field_simp
    · refine ⟨n * i.den, 10 ^ (-power).toNat, by positivity, ?_, by simp [has, h]⟩
      rw [natCast_mul_zpow, if_neg h]
      push_cast
      field_simp
  have hlow := not_congr (div_mul_lt_div_iff (n := i.low) (a := a) hd hden)
  have hhigh := not_congr (div_lt_div_mul_iff (n := i.high) (a := a) hd hden)
  rw [not_lt, not_lt] at hlow hhigh
  rw [Mem, heq, hhas, hlow, hhigh, div_lt_div_mul_iff hd hden, div_mul_lt_div_iff hd hden]
  cases i.closed with
  | true => simp
  | false =>
    simp only [Bool.false_eq_true, if_false, Bool.and_eq_true, decide_eq_true_eq, forall_const]
    omega

/-- The number of an interval over a power of ten, as a fraction.

**Proof sketch.** By cases on the sign of the power: the power of ten goes to the denominator or to
the numerator. -/
lemma atPower_spec (hden : 0 < i.den) (power : ℤ) :
    0 < (i.atPower power).2 ∧
      ((i.atPower power).1 : ℚ) / (i.atPower power).2 * 10 ^ power = i.mid / i.den := by
  have hpos : (0 : ℚ) < i.den := by exact_mod_cast hden
  unfold atPower
  split
  · next h =>
    obtain ⟨k, rfl⟩ := Int.eq_ofNat_of_zero_le h
    refine ⟨Nat.mul_pos hden (Nat.pow_pos (by decide)), ?_⟩
    simp only [Int.toNat_natCast, Nat.pow_eq, zpow_natCast]
    push_cast
    field_simp
  · next h =>
    obtain ⟨k, rfl⟩ : ∃ k : ℕ, power = -k := ⟨power.natAbs, by omega⟩
    refine ⟨hden, ?_⟩
    simp only [neg_neg, Int.toNat_natCast, Nat.pow_eq, zpow_neg, zpow_natCast]
    push_cast
    field_simp

/-! ## The search -/

/-- A quotient is rounded to its integer part or to the next integer. -/
lemma roundDiv_eq_or (num den : ℕ) :
    roundDiv num den = num / den ∨ roundDiv num den = num / den + 1 := by
  simp only [roundDiv]
  split_ifs <;> simp

/-- What the search needs of an interval: the number is positive and lies in it, and the denominator
is a power of two. -/
structure Proper (i : Interval) : Prop where
  den_eq : i.den = 2 ^ i.den.log2
  mid_pos : 0 < i.mid
  mid_mem : i.Mem ((i.mid : ℚ) / i.den)

/-- The denominator is positive. -/
lemma Proper.den_pos (hi : i.Proper) : 0 < i.den := by
  rw [hi.den_eq]
  positivity

/-- Beyond the binary digits of the denominator the number is on the grid.

**Proof sketch.** The denominator is a power of two and divides a power of ten that is at least as
large in the exponent. -/
lemma Proper.dvd_atPower (hi : i.Proper) {power : ℤ} (h : power ≤ -i.den.log2) :
    (i.atPower power).2 ∣ (i.atPower power).1 := by
  obtain ⟨k, rfl⟩ : ∃ k : ℕ, power = -k := ⟨power.natAbs, by omega⟩
  have hten : i.den ∣ 10 ^ k := by
    rw [hi.den_eq]
    calc 2 ^ i.den.log2 ∣ 2 ^ k := pow_dvd_pow 2 (by omega)
      _ ∣ 10 ^ k := pow_dvd_pow_of_dvd (by decide) k
  unfold atPower
  split
  · next hk =>
    obtain rfl : k = 0 := by omega
    have hone : i.den = 1 := by simpa using hten
    simp [hone]
  · simpa using hten.mul_left i.mid

/-- A number on the grid is found there.

**Proof sketch.** If the division leaves no rest, the quotient times the power is the middle of the
interval, which lies in the interval and is positive. -/
lemma Proper.has_of_dvd (hi : i.Proper) {power : ℤ}
    (h : (i.atPower power).2 ∣ (i.atPower power).1) :
    0 < (i.atPower power).1 / (i.atPower power).2 ∧
      i.has ((i.atPower power).1 / (i.atPower power).2) power = true := by
  obtain ⟨hpos, heq⟩ := atPower_spec hi.den_pos power
  have hden : (0 : ℚ) < i.den := by exact_mod_cast hi.den_pos
  have hmid : (0 : ℚ) < i.mid := by exact_mod_cast hi.mid_pos
  have hcast : ((i.atPower power).2 : ℚ) ≠ 0 := by exact_mod_cast hpos.ne'
  rw [has_iff hi.den_pos, Nat.cast_div h hcast, heq]
  refine ⟨?_, hi.mid_mem⟩
  refine Nat.div_pos (Nat.le_of_dvd ?_ h) hpos
  by_contra hzero
  rw [Nat.eq_zero_of_not_pos hzero, Nat.cast_zero, zero_div, zero_mul] at heq
  have := div_pos hmid hden
  linarith

/-- **The search ends within the interval** if its fuel reaches a grid on which the number lies.

**Proof sketch.** Induction on the fuel. A step that finds nothing was not yet on such a grid, so the
grid is still ahead. -/
lemma Proper.search_mem (hi : i.Proper) (fuel : ℕ) (power : ℤ) {j : ℕ} (hj : j < fuel)
    (hgrid : power - j ≤ -i.den.log2) :
    0 < (i.search fuel power).1 ∧
      i.Mem ((i.search fuel power).1 * 10 ^ (i.search fuel power).2) := by
  rw [← has_iff hi.den_pos]
  induction fuel generalizing power j with
  | zero => omega
  | succ fuel ih =>
    have hround := roundDiv_eq_or (i.atPower power).1 (i.atPower power).2
    simp only [search]
    split
    · next hdown hup =>
      rw [Bool.and_eq_true, decide_eq_true_eq] at hdown
      rcases hround with hround | hround <;> rw [hround]
      · exact hdown
      · exact ⟨Nat.succ_pos _, hup⟩
    · next hdown _ =>
      rw [Bool.and_eq_true, decide_eq_true_eq] at hdown
      exact hdown
    · next _ hup => exact ⟨Nat.succ_pos _, hup⟩
    · next hdown _ =>
      -- on a grid with the number on it the search would have ended
      have hne : j ≠ 0 := by
        rintro rfl
        rw [Nat.cast_zero, sub_zero] at hgrid
        obtain ⟨hpos, hhas⟩ := hi.has_of_dvd (hi.dvd_atPower hgrid)
        simp [hpos, hhas] at hdown
      exact ih (power - 1) (j := j - 1) (by omega) (by omega)

/-- The logarithm of the number of an interval is at most that of its numerator. -/
lemma Proper.logFloor_le (hi : i.Proper) : logFloor i.mid i.den ≤ i.mid.log2 := by
  have hlt : logFloor i.mid i.den < (i.mid.log2 : ℤ) + 1 := by
    rw [logFloor_lt_iff hi.mid_pos hi.den_pos]
    have hden : (1 : ℚ) ≤ i.den := by exact_mod_cast hi.den_pos
    exact (div_le_self (Nat.cast_nonneg _) hden).trans_lt (log2_bounds hi.mid_pos).2
  omega

/-- A power of ten below the number of an interval is at most the logarithm of its numerator.

**Proof sketch.** If the power is positive, then so many tens fit into the numerator, and all the
more so many twos. -/
lemma Proper.le_log2 (hi : i.Proper) {k : ℤ} (h : (i.atPower k).2 ≤ (i.atPower k).1) :
    k ≤ i.mid.log2 := by
  rcases le_total k 0 with hk | hk
  · omega
  · obtain ⟨n, rfl⟩ := Int.eq_ofNat_of_zero_le hk
    have hle : i.den * 10 ^ n ≤ i.mid := by simpa [atPower] using h
    have hpow : 2 ^ n ≤ i.mid :=
      calc 2 ^ n ≤ 10 ^ n := Nat.pow_le_pow_left (by decide) n
        _ ≤ i.den * 10 ^ n := Nat.le_mul_of_pos_left _ hi.den_pos
        _ ≤ i.mid := hle
    exact_mod_cast (Nat.le_log2 hi.mid_pos.ne').2 hpow

/-- The search starts at most as far up as the logarithm of the numerator. -/
lemma Proper.leading_le (hi : i.Proper) (fuel : ℕ) {k : ℤ} (hk : k ≤ i.mid.log2) :
    i.leading fuel k ≤ i.mid.log2 := by
  induction fuel generalizing k with
  | zero => exact hk
  | succ fuel ih =>
    simp only [leading]
    split
    · next h => exact ih (hi.le_log2 h)
    · exact hk

/-- Where the search for the first digit starts. -/
lemma Proper.start_le (hi : i.Proper) : i.start ≤ i.mid.log2 := by
  have hlog := hi.logFloor_le
  simp only [start]
  split <;> omega

end Interval

/-! ## The shortest digits -/

/-- Zeros at the end go into the power of ten.

**Proof sketch.** By induction on the fuel. Where a zero is taken from the end, the number is ten
times what is left, and the power of ten goes up by one. -/
lemma trimZeros_spec (fuel n : ℕ) (power : ℤ) :
    ((trimZeros fuel n power).1 : ℚ) * 10 ^ (trimZeros fuel n power).2 = n * 10 ^ power ∧
      (0 < n → 0 < (trimZeros fuel n power).1) := by
  induction fuel generalizing n power with
  | zero => exact ⟨rfl, id⟩
  | succ fuel ih =>
    rw [trimZeros]
    split
    · next h =>
      obtain ⟨k, rfl⟩ : ∃ k, n = 10 * k := ⟨n / 10, by omega⟩
      obtain ⟨heq, hpos⟩ := ih (10 * k / 10) (power + 1)
      refine ⟨?_, fun _ => hpos (by omega)⟩
      rw [heq, zpow_add_one₀ (by norm_num), Nat.mul_div_cancel_left k (by decide)]
      push_cast
      ring
    · exact ⟨rfl, id⟩

/-- The number that digits and the place of the decimal point denote. -/
def Figures.amount (f : Figures) : ℚ := value f.digits * 10 ^ (f.point - f.digits.length)

/-- The search finds a number in the interval, and its digits are taken without the zeros at the
end.

**Proof sketch.** The search starts at a power that is not too large, by `start_le`, and with enough
steps by `leading_le`. So `search_mem` applies. -/
lemma exists_shortest_eq_trimZeros {i : Interval} (hi : i.Proper) :
    ∃ (n : ℕ) (power : ℤ), 0 < n ∧ i.Mem (n * 10 ^ power) ∧
      i.shortest = ⟨ofNat (trimZeros (Nat.log2 n + 1) n power).1,
        (ofNat (trimZeros (Nat.log2 n + 1) n power).1).length +
          (trimZeros (Nat.log2 n + 1) n power).2⟩ := by
  have hfirst := hi.leading_le (i.mid.log2 + i.den.log2 + 4) hi.start_le
  obtain ⟨hpos, hmem⟩ := hi.search_mem (i.mid.log2 + i.den.log2 + 4)
    (i.leading (i.mid.log2 + i.den.log2 + 4) i.start)
    (j := (i.leading (i.mid.log2 + i.den.log2 + 4) i.start + i.den.log2).toNat)
    (by omega) (by omega)
  exact ⟨_, _, hpos, hmem, rfl⟩

/-- **The shortest digits lie in the interval.** They are the digits of a positive number. -/
theorem shortest_mem {i : Interval} (hi : i.Proper) :
    i.Mem i.shortest.amount ∧ ∃ n, 0 < n ∧ i.shortest.digits = ofNat n := by
  obtain ⟨n, power, hpos, hmem, hshortest⟩ := exists_shortest_eq_trimZeros hi
  obtain ⟨heq, htrim⟩ := trimZeros_spec (Nat.log2 n + 1) n power
  rw [hshortest]
  refine ⟨?_, _, htrim hpos, rfl⟩
  rw [Figures.amount, value_ofNat, add_sub_cancel_left, heq]
  exact hmem

/-- **The interval of a double can be searched.**

**Proof sketch.** The denominator is a power of two, and in the unit of the double the low end, the
middle and the high end are less than each other, because less than the mantissa is taken away and
something is added. -/
theorem proper_interval {b : Binary} (hpos : 0 < b.mantissa) :
    (b.interval double false).Proper := by
  have hden : (b.interval double false).den =
      2 ^ (if 0 ≤ b.exponent then 2 else 2 + (-b.exponent).toNat) := by
    simp only [Binary.interval]
    split
    · rfl
    · rw [pow_add]
      rfl
  have hunit : (0 : ℚ) < 2 ^ b.exponent := by positivity
  have hmantissa : (0 : ℚ) < b.mantissa := by exact_mod_cast hpos
  have hbelow : ((4 * b.mantissa - b.quarters : ℕ) : ℚ) / 4 < b.mantissa := by
    have hquarters : 4 * b.mantissa - b.quarters < 4 * b.mantissa := by
      have := b.quarters_bounds.1
      omega
    have : ((4 * b.mantissa - b.quarters : ℕ) : ℚ) < (4 * b.mantissa : ℕ) := by
      exact_mod_cast hquarters
    push_cast at this
    linarith
  have habove : (b.mantissa : ℚ) < (4 * b.mantissa + 2) / 4 := by linarith
  have hlow : ((b.interval double false).low : ℚ) / (b.interval double false).den <
      (b.interval double false).mid / (b.interval double false).den := by
    rw [interval_low_div, interval_mid_div]
    gcongr
  have hhigh : ((b.interval double false).mid : ℚ) / (b.interval double false).den <
      (b.interval double false).high / (b.interval double false).den := by
    rw [interval_high_div, interval_mid_div]
    gcongr
  refine ⟨?_, ?_, hlow.le, hhigh.le, fun _ => ⟨hlow, hhigh⟩⟩
  · rw [hden, Nat.log2_two_pow]
  · by_contra hzero
    have hmid := interval_mid_div b
    rw [Nat.eq_zero_of_not_pos hzero, Nat.cast_zero, zero_div] at hmid
    have := mul_pos hmantissa hunit
    linarith

end SchemaKit.Decimal
