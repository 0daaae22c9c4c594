import SchemaKit.Proofs.Json.Nearest
import SchemaKit.Proofs.Json.Survival

/-!
# Numbers that are kept

A number that passes through a double comes out as the shortest literal for that double. It is the
number that went in exactly if it was the number of such a literal, and the exponent was read in
full.

## Main definitions

* `SchemaKit.Json.Numeral.IsKept` — the literal denotes what the shortest literal of some double
  denotes.

## Main results

* `SchemaKit.Json.Numeral.survives_iff_isKept` — the numbers that survive are those that are kept.
* `SchemaKit.Json.Numeral.quantity_ofDouble_eq_iff` — what comes out is what went in.
-/

namespace SchemaKit

namespace Json

open Decimal

/-! ## Values and signs -/

/-- With equal signs, values are equal iff their amounts are. -/
lemma Numeral.quantity_eq_iff {m n : Numeral} (h : m.negative = n.negative) :
    m.quantity = n.quantity ↔ m.amount = n.amount := by
  rw [Numeral.quantity, Numeral.quantity, h]
  split
  · exact neg_inj
  · exact Iff.rfl

/-- The literal of zero. -/
lemma Numeral.amount_ofDouble_none {d : Double} (h : d.magnitude = none) :
    (Numeral.ofDouble d).amount = 0 := by
  rw [Numeral.amount_eq_zero_iff, Numeral.ofDouble, h]
  rfl

/-- A double of the amount zero is zero. -/
lemma Double.Valid.magnitude_eq_none {d : Double} (hd : d.Valid) (h : d.amount = 0) :
    d.magnitude = none := by
  cases hb : d.magnitude with
  | none => rfl
  | some b =>
    obtain ⟨-, hpos, -⟩ := hd b hb
    have hmantissa : (0 : ℚ) < b.mantissa := by exact_mod_cast hpos
    rw [Double.amount, hb, Option.getD_some, Binary.amount] at h
    have hpositive : (0 : ℚ) < b.mantissa * 2 ^ b.exponent := by positivity
    exact absurd h hpositive.ne'

/-- The literal of a double is near to the double. -/
lemma Double.Valid.near {d : Double} (hd : d.Valid) (hne : d.amount ≠ 0) :
    d.amount ≤ 2 * (Numeral.ofDouble d).amount ∧
      2 * (Numeral.ofDouble d).amount ≤ 3 * d.amount := by
  have hself : (Numeral.ofDouble d).nearest? = some d := by
    rw [← Numeral.double?_eq_nearest? fun e he => (hd.exponent_lt he).trans (by norm_num)]
    exact Numeral.double?_ofDouble hd
  exact Numeral.near_of_nearest? hself hne

namespace Numeral

variable {n : Numeral} {d : Double}

/-! ## Which numbers are kept -/

/-- A literal that denotes zero, or what the shortest literal of some double denotes, where the
exponent is read in full. -/
def IsKept (n : Numeral) : Prop :=
  n.coefficient = 0 ∨ (∀ e, n.exponent = some e → value e.digits < 100000) ∧
    ∃ d : Double, d.Valid ∧ (ofDouble d).quantity = n.quantity

/-- A literal with a long exponent does not come out with its value.

**Proof sketch.** Suppose the exponent is long. The double is near to the literal with the shortened
exponent, and the literal of the double is near to the double. By `far_of_long` the literal with the
shortened exponent is ten times less or ten times more than the literal itself, and near can not be
that far. -/
lemma exponent_lt_of_survives (hn : n.WellFormed) (h : n.Survives) (hcoefficient : n.coefficient ≠ 0)
    {e : Exponent} (he : n.exponent = some e) : value e.digits < 100000 := by
  by_contra hlong
  obtain ⟨hsome, hamount⟩ := h
  obtain ⟨d, hd⟩ := Option.isSome_iff_exists.1 hsome
  rw [rounded_eq hd] at hamount
  have hne : n.amount ≠ 0 := fun hzero => hcoefficient (n.amount_eq_zero_iff.1 hzero)
  have hpos : 0 < n.amount := lt_of_le_of_ne n.amount_nonneg hne.symm
  have hdouble : d.amount ≠ 0 := fun hzero => hne
    (hamount.symm.trans (amount_ofDouble_none ((valid_of_double? hd).magnitude_eq_none hzero)))
  -- what went in and what came out are both near to the double
  obtain ⟨hlow, hhigh⟩ := near_of_nearest? (n := n.curbed) hd hdouble
  obtain ⟨hlow', hhigh'⟩ := (valid_of_double? hd).near hdouble
  rw [hamount] at hlow' hhigh'
  rcases n.far_of_long hn he (not_lt.1 hlong) with hless | hmore <;> linarith

/-- **The numbers that survive are those that are kept.**

**Proof sketch.** A literal that denotes zero is on both sides. Any other one that survives has a
short exponent, and is the value of the double it becomes. Conversely the literal of the double `d`
lies in the interval of `d`, so a literal with the same value is rounded to `d` as well, by
`nearest?_eq_of_mem`. -/
theorem survives_iff_isKept (hn : n.WellFormed) : n.Survives ↔ n.IsKept := by
  constructor
  · intro h
    by_cases hcoefficient : n.coefficient = 0
    · exact .inl hcoefficient
    · obtain ⟨d, hd⟩ := Option.isSome_iff_exists.1 h.1
      have hnegative : (ofDouble d).negative = n.negative := by
        rw [negative_ofDouble, negative_of_double? hd]
      refine .inr ⟨fun e he => exponent_lt_of_survives hn h hcoefficient he, d, valid_of_double? hd,
        (quantity_eq_iff hnegative).2 ?_⟩
      rw [← rounded_eq hd, h.2]
  · intro h
    by_cases hcoefficient : n.coefficient = 0
    · have hzero := double?_of_coefficient_eq_zero hcoefficient
      refine ⟨by rw [hzero, Option.isSome_some], ?_⟩
      rw [rounded_eq hzero, amount_ofDouble_none rfl, n.amount_eq_zero_iff.2 hcoefficient]
    · obtain ⟨hexponent, d, hd, hquantity⟩ := h.resolve_left hcoefficient
      have hamount : (ofDouble d).amount = n.amount := by
        rw [← abs_quantity, hquantity, abs_quantity]
      cases hb : d.magnitude with
      | none =>
        rw [amount_ofDouble_none hb] at hamount
        exact absurd (n.amount_eq_zero_iff.1 hamount.symm) hcoefficient
      | some b =>
        -- the literal of `d` lies in the interval of `d`, and so does every other literal for it
        have hmem := (hd.shortest hb).1
        rw [hamount] at hmem
        have hvalid : Double.Valid ⟨d.negative, some b⟩ := hb ▸ hd
        have hdouble : n.double? = some ⟨n.negative, some b⟩ := by
          rw [double?_eq_nearest? hexponent, nearest?_eq_of_mem hvalid hmem]
        refine ⟨by rw [hdouble, Option.isSome_some], ?_⟩
        rw [rounded_eq hdouble, ← hamount, hd.amount_ofDouble hb,
          Double.Valid.amount_ofDouble (d := ⟨n.negative, some b⟩) hvalid rfl]

/-- **What comes out of a double is what went in** exactly if the number is kept. -/
theorem quantity_ofDouble_eq_iff (hn : n.WellFormed) (hd : n.double? = some d) :
    (ofDouble d).quantity = n.quantity ↔ n.IsKept := by
  have hnegative : (ofDouble d).negative = n.negative := by
    rw [negative_ofDouble, negative_of_double? hd]
  rw [← survives_iff_isKept hn, quantity_eq_iff hnegative, Survives, rounded_eq hd, hd]
  simp

end Numeral

end Json

end SchemaKit
