import SchemaKit.Proofs.Json.Nearest
import SchemaKit.Proofs.Users.Acceptance

/-!
# The id of an account

The id is taken from a number literal. A plain literal in the 64-bit range is taken as it stands;
every other one goes through a double, and the double has to be an integer in the range. So the id
is the number in the text exactly for the literals that are read as they are written; another
literal may still give an id, but not its own value.

## Main results

* `SchemaKit.Account.integral_eq_ok_iff` — which integer is taken from a literal.
* `SchemaKit.Account.integral_eq_ok_iff_of_isFaithful` — faithful literals give their value.
* `SchemaKit.Account.quantity_ne_of_integral` — other literals give another integer, or none.
* `SchemaKit.Account.id_exact` — when the id is the number in the text.
-/

namespace SchemaKit

open Json

namespace Account

/-! ## The integer of a literal -/

/-- The natural number that a double is apart from its sign. -/
lemma magnitude_eq_some_iff {d : Double} {m : ℕ} :
    (match d.magnitude with
      | none => some 0
      | some b => b.toNat?) = some m ↔ d.amount = m := by
  obtain ⟨negative, magnitude⟩ := d
  cases magnitude with
  | none =>
    rw [Double.amount_none, Option.some.injEq]
    norm_cast
  | some b => exact Decimal.Binary.toNat?_eq_some_iff

/-- **Which integer is taken from a literal**: that of a plain literal in the range, or else the
double that the literal is turned into, if it is an integer in the range.

**Proof sketch.** By whether the literal is plain and, if it is not, by the double that it is turned
into. A double is an integer iff its absolute value is a natural number. -/
theorem integral_eq_ok_iff {n : Numeral} {i : ℤ} :
    integral n = .ok i ↔
      n.int64? = some i ∨
        n.int64? = none ∧ inInt64 i = true ∧ ∃ d, n.double? = some d ∧ d.quantity = i := by
  unfold integral
  cases hplain : n.int64? with
  | some j => simp
  | none =>
    cases hd : n.double? with
    | none => simp
    | some d =>
      simp only [reduceCtorEq, false_or, true_and, Option.some.injEq, exists_eq_left']
      split
      · next hnone =>
        -- an integer has a natural number as its absolute value
        refine ⟨by rintro ⟨⟩, ?_⟩
        rintro ⟨-, hquantity⟩
        have hamount : d.amount = i.natAbs := by
          rw [← d.abs_quantity, hquantity, ← Int.cast_abs, Int.abs_eq_natAbs, Int.cast_natCast]
        cases hnone.symm.trans (magnitude_eq_some_iff.2 hamount)
      · next m hm =>
        have hamount : d.amount = m := magnitude_eq_some_iff.1 hm
        have hquantity : d.quantity = ((if d.negative then -(m : ℤ) else m : ℤ) : ℚ) := by
          rw [Double.quantity, hamount]
          split <;> push_cast <;> rfl
        rw [hquantity, Int.cast_inj]
        generalize (if d.negative = true then -(m : ℤ) else m) = j
        constructor
        · intro h
          split at h
          · next hrange =>
            cases h
            exact ⟨hrange, rfl⟩
          · cases h
        · rintro ⟨hrange, rfl⟩
          rw [if_pos hrange]

/-! ## Literals that are read as they are written -/

/-- **A faithful literal gives its value**, if that is an integer in the range, and nothing
otherwise.

**Proof sketch.** A plain literal is the integer it spells. Any other faithful literal is turned
into a double with its value, so by `integral_eq_ok_iff` that value is stored if it is an integer in
the range. -/
theorem integral_eq_ok_iff_of_isFaithful {n : Numeral} (h : n.IsFaithful) {i : ℤ} :
    integral n = .ok i ↔ n.quantity = i ∧ inInt64 i = true := by
  rw [integral_eq_ok_iff]
  cases hplain : n.int64? with
  | some j =>
    obtain ⟨hj, hrange⟩ := Option.filter_eq_some_iff.1 hplain
    rw [Numeral.quantity_of_int? hj, Int.cast_inj]
    constructor
    · rintro (hsame | ⟨hnone, -⟩)
      · obtain rfl := Option.some.inj hsame
        exact ⟨rfl, hrange⟩
      · cases hnone
    · rintro ⟨rfl, -⟩
      exact .inl rfl
  | none =>
    obtain ⟨d, hd, hquantity⟩ := h.exists_double?_eq hplain
    simp only [hd, reduceCtorEq, false_or, true_and, Option.some.injEq, exists_eq_left', hquantity]
    exact and_comm

/-- **Another literal gives another integer, if any**: not its value, but an integer that is as near
as doubles come to the literal with the exponent that is read.

**Proof sketch.** The integer is not that of a plain literal, which would be faithful. So it is the
double that the literal is turned into, and no double is nearer, by `nearest?_nearest`. -/
theorem quantity_ne_of_integral {n : Numeral} (hn : n.WellFormed) (h : ¬n.IsFaithful) {i : ℤ}
    (hi : integral n = .ok i) :
    n.quantity ≠ i ∧
      ∀ d : Double, d.Valid → |n.curbed.quantity - i| ≤ |n.curbed.quantity - d.quantity| := by
  rcases integral_eq_ok_iff.1 hi with hplain | ⟨-, -, d, hd, hquantity⟩
  · -- a plain literal in the range is faithful
    have hsome : n.int64?.isSome = true := by rw [hplain, Option.isSome_some]
    exact absurd (.inl hsome) h
  · rw [← hquantity]
    exact ⟨Numeral.quantity_ne_of_not_isFaithful hn h hd,
      fun d' hd' => Numeral.nearest?_nearest (n := n.curbed) hd hd'⟩

/-! ## The id in a text -/

/-- The id of an account is taken from a literal of the text. -/
lemma exists_id_of_deserialize {text : List Char} {a : Account} (h : deserialize text = .ok a) :
    ∃ members n, readWhole text = some (.obj members) ∧ last? members "id" = some (.num n) ∧
      n.WellFormed ∧ integral n = .ok a.id := by
  obtain ⟨members, n, hread, hadmits, hn⟩ := admits_of_deserialize h
  have hmember : ("id", .num n) ∈ members := mem_of_last?_eq_some hadmits.id_eq
  have hwf : (Json.num n).WellFormed :=
    wellFormedMembers_iff.1 (fits_of_readWhole hread).wellFormed _ hmember
  exact ⟨members, n, hread, hadmits.id_eq, hwf, hn⟩

/-- **When the id is the number in the text.** A literal that is read as it is written gives its
value, exactly if that is an integer of 64 bits. Another one gives at most an integer that is near
to it and never its value. So the id of an account that was read is the number in its text iff the
literal is one of the former.

**Proof sketch.** Through a double a literal gives a nearest one, and that is the value of the
literal as soon as some double is. Where the exponent is cut off, the value is off by a power of ten
at least, which no rounding makes up for. -/
theorem id_exact (n : Numeral) (hn : n.WellFormed) :
    (n.IsFaithful → ∀ i : ℤ, integral n = .ok i ↔ n.quantity = i ∧ inInt64 i = true) ∧
    (¬n.IsFaithful → ∀ i : ℤ, integral n = .ok i → n.quantity ≠ i ∧
      ∀ d : Double, d.Valid → |n.curbed.quantity - i| ≤ |n.curbed.quantity - d.quantity|) ∧
    ∀ text a, deserialize text = .ok a →
      ∃ members m, readWhole text = some (.obj members) ∧ last? members "id" = some (.num m) ∧
        (m.quantity = a.id ↔ m.IsFaithful) := by
  refine ⟨fun h i => integral_eq_ok_iff_of_isFaithful h, fun h i => quantity_ne_of_integral hn h,
    fun text a h => ?_⟩
  obtain ⟨members, m, hread, hid, hm, ha⟩ := exists_id_of_deserialize h
  refine ⟨members, m, hread, hid, fun hsame => ?_, fun hfaithful => ?_⟩
  · by_contra hfaithful
    exact (quantity_ne_of_integral hm hfaithful ha).1 hsame
  · exact ((integral_eq_ok_iff_of_isFaithful hfaithful).1 ha).1

/-! ## An integer that is no double -/

/-- A thousand, written with an exponent. -/
def thousand : Numeral := ⟨false, ['1'], none, some ⟨false, none, ['3']⟩⟩

/-- The least positive integer that is no double, written with a fraction. -/
def firstLost : Numeral := ⟨false, "9007199254740993".toList, some ['0'], none⟩

/-- The members of an account with that id. -/
def lostMembers : List (String × Json) := [("id", .num firstLost), ("name", .str "Ada")]

/-- The text of the members. -/
def lostText : List Char := "\x7b\"id\":9007199254740993.0,\"name\":\"Ada\"\x7d".toList

/-- A thousand is read from its characters. -/
lemma wellFormed_thousand : thousand.WellFormed := by
  have hread : readWhole ['1', 'e', '3'] = some (.num thousand) := by rfl
  exact (fits_of_readWhole hread).wellFormed

/-- A thousand is a double.

**Proof sketch.** It is the double with the mantissa `1000 * 2 ^ 43` and the exponent -43. -/
lemma isFaithful_thousand : thousand.IsFaithful := by
  have hcoefficient : thousand.coefficient = 1 := by decide
  have hpower : thousand.power = 3 := by decide
  refine .inr (.inr ⟨?_, ⟨false, some ⟨1000 * 2 ^ 43, -43⟩⟩, ?_, ?_⟩)
  · rintro e ⟨⟩
    decide
  · rintro b ⟨⟩
    exact ⟨⟨by norm_num, by norm_num, .inr (by norm_num)⟩, by norm_num, by decide⟩
  · rw [Numeral.quantity, Numeral.amount, hcoefficient, hpower]
    norm_num [Double.quantity, Double.amount, Decimal.Binary.amount, thousand]

/-- The value of the integer that is no double. -/
lemma quantity_firstLost : firstLost.quantity = 9007199254740993 := by
  have hcoefficient : firstLost.coefficient = 90071992547409930 := by decide
  have hpower : firstLost.power = -1 := by decide
  rw [Numeral.quantity, Numeral.amount, hcoefficient, hpower]
  norm_num [firstLost]

/-- The integer that is taken from it is the double below it. -/
lemma integral_firstLost : integral firstLost = .ok 9007199254740992 := by rfl

/-- The text is read as the members. -/
lemma readWhole_lostText : readWhole lostText = some (.obj lostMembers) := by rfl

/-- What is read is well formed. -/
lemma wellFormed_firstLost : firstLost.WellFormed := by
  have hmembers := wellFormedMembers_iff.1 (fits_of_readWhole readWhole_lostText).wellFormed
  exact hmembers ("id", .num firstLost) List.mem_cons_self

/-- The text is accepted, with the other integer as id. -/
lemma deserialize_lostText : deserialize lostText = .ok ⟨9007199254740992, "Ada", none⟩ :=
  deserialize_of_admits readWhole_lostText (by decide) ⟨by decide, rfl, rfl, rfl, .inl rfl⟩
    integral_firstLost

/-- A thousand is faithful and gives its value; the first integer that is no double is not, and
gives the one below it.

**Proof sketch.** Both literals are evaluated. Of the second one the value is known by
`quantity_firstLost`, and it is no double. -/
theorem id_exact_of_lostText :
    thousand.WellFormed ∧ thousand.IsFaithful ∧ thousand.quantity = (1000 : ℤ) ∧
      integral thousand = .ok 1000 ∧
      firstLost.WellFormed ∧ ¬firstLost.IsFaithful ∧
      integral firstLost = .ok 9007199254740992 ∧ firstLost.quantity ≠ (9007199254740992 : ℤ) ∧
      Double.Valid ⟨false, none⟩ ∧
      |firstLost.curbed.quantity - (9007199254740992 : ℤ)| ≤
        |firstLost.curbed.quantity - Double.quantity ⟨false, none⟩| ∧
      deserialize lostText = .ok ⟨9007199254740992, "Ada", none⟩ ∧
      ∃ members n, readWhole lostText = some (.obj members) ∧
        last? members "id" = some (.num n) ∧
        (n.quantity = (9007199254740992 : ℤ) ↔ n.IsFaithful) := by
  obtain ⟨hfaithful, -, -⟩ := id_exact thousand wellFormed_thousand
  have hthousand : integral thousand = .ok 1000 := by rfl
  obtain ⟨hexact, hother, htexts⟩ := id_exact firstLost wellFormed_firstLost
  have hlost : ¬firstLost.IsFaithful := by
    intro h
    have hsame := ((hexact h _).1 integral_firstLost).1
    rw [quantity_firstLost] at hsame
    norm_num at hsame
  have hzero : Double.Valid ⟨false, none⟩ := by rintro _ ⟨⟩
  obtain ⟨hne, hnearest⟩ := hother hlost _ integral_firstLost
  exact ⟨wellFormed_thousand, isFaithful_thousand,
    ((hfaithful isFaithful_thousand 1000).1 hthousand).1, hthousand, wellFormed_firstLost, hlost,
    integral_firstLost, hne, hzero, hnearest _ hzero, deserialize_lostText,
    htexts _ _ deserialize_lostText⟩

/-- An integer of 64 bits is written in a text, and another one is stored as the id. -/
theorem deserialize_of_lostText :
    firstLost.quantity = (9007199254740993 : ℤ) ∧ inInt64 9007199254740993 = true ∧
      integral firstLost = .ok 9007199254740992 ∧
      readWhole lostText = some (.obj [("id", .num firstLost), ("name", .str "Ada")]) ∧
      deserialize lostText = .ok ⟨9007199254740992, "Ada", none⟩ :=
  ⟨quantity_firstLost, by decide, integral_firstLost, readWhole_lostText, deserialize_lostText⟩

end Account

end SchemaKit
