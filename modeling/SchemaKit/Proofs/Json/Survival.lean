import SchemaKit.Proofs.Json.Canonical

/-!
# Numbers that survive as doubles

Where a document passes through a program that works with doubles, every number comes out as the
literal with the fewest digits for its nearest double. For many literals that literal denotes the
same number. This module says what such a literal keeps beside its value: whether it is exact, and
the integer that a plain literal stands for.

## Main definitions

* `SchemaKit.Json.Numeral.rounded` — the literal as which a number comes out.
* `SchemaKit.Json.Numeral.Survives` — it denotes the same number.
* `SchemaKit.Json.rounded`, `SchemaKit.Json.Survives` — the same for all numbers of a value.

## Main results

* `SchemaKit.Json.Numeral.Survives.isExact` — an exact literal comes out as an exact one.
* `SchemaKit.Json.Numeral.Survives.int64?_eq` — a plain integer comes out as a plain integer.
* `SchemaKit.Json.Survives.canonicalText?_rounded` — values that are compared by their canonical
  texts are the same as before.
-/

namespace SchemaKit

/-! ## No zeros at the end -/

namespace Decimal

/-- Zeros at the end are dropped, all of them if there is fuel for each digit.

**Proof sketch.** Induction on the fuel: every zero that is dropped makes the number ten times
smaller. -/
lemma trimZeros_mod_ne_zero {fuel n : ℕ} (hn : 0 < n) (hfuel : n < 10 ^ fuel) (power : ℤ) :
    (trimZeros fuel n power).1 % 10 ≠ 0 := by
  induction fuel generalizing n power with
  | zero => omega
  | succ fuel ih =>
    rw [trimZeros]
    split
    · next h =>
      rw [pow_succ] at hfuel
      exact ih (by omega) (by omega) _
    · next h => omega

/-- **The shortest digits do not end with a zero.** -/
lemma exists_shortest_eq {i : Interval} (hi : i.Proper) :
    ∃ (c : ℕ) (p : ℤ), 0 < c ∧ c % 10 ≠ 0 ∧ i.shortest = ⟨ofNat c, (ofNat c).length + p⟩ := by
  obtain ⟨n, power, hpos, -, hshortest⟩ := exists_shortest_eq_trimZeros hi
  exact ⟨_, _, (trimZeros_spec _ n power).2 hpos, trimZeros_mod_ne_zero hpos (lt_ten_pow_log2 _) _,
    hshortest⟩

end Decimal

namespace Json

open Decimal

/-! ## Literals -/

/-- The literal as which a number comes out of a double: the one with the fewest digits for the
nearest double. A number beyond the range of doubles stays as it is. -/
def Numeral.rounded (n : Numeral) : Numeral := (n.double?.map Numeral.ofDouble).getD n

/-- A number that comes out of a double with the value that it had before. -/
def Numeral.Survives (n : Numeral) : Prop :=
  n.double?.isSome = true ∧ n.rounded.amount = n.amount

namespace Numeral

variable {n : Numeral} {d : Double}

/-- The literal of the nearest double. -/
lemma rounded_eq (h : n.double? = some d) : n.rounded = ofDouble d := by
  rw [rounded, h]
  rfl

/-- Rounding keeps the sign.

**Proof sketch.** Every way in which rounding gives a double takes over the sign. -/
lemma negative_of_double? (h : n.double? = some d) : d.negative = n.negative := by
  unfold double? nearest? at h
  split at h
  · cases h
    rfl
  · split at h
    · cases h
    · split at h
      · cases h
        rfl
      · dsimp only at h
        split at h
        · cases h
        · split at h <;> (cases h; rfl)

/-- The literal that comes out keeps the sign. -/
lemma negative_rounded (h : n.double?.isSome = true) : n.rounded.negative = n.negative := by
  obtain ⟨d, hd⟩ := Option.isSome_iff_exists.1 h
  rw [rounded_eq hd, negative_ofDouble, negative_of_double? hd]

/-- The literal that comes out is rounded to the same double. -/
lemma double?_rounded (h : n.double?.isSome = true) : n.rounded.double? = n.double? := by
  obtain ⟨d, hd⟩ := Option.isSome_iff_exists.1 h
  rw [rounded_eq hd, double?_ofDouble (valid_of_double? hd), hd]

/-! ## The layout of a double -/

/-- The digits of a literal for a double that is not zero: how they are laid out, and between which
powers of ten they lie. -/
structure Laid (m : Numeral) (c : ℕ) (p : ℤ) : Prop where
  pos : 0 < c
  mod_ne_zero : c % 10 ≠ 0
  amount_eq : m.amount = c * 10 ^ p
  shown : ∃ negative, m = ofFigures jsonLayout negative ⟨Decimal.ofNat c, (Decimal.ofNat c).length + p⟩

/-- The literal of a double that is not zero.

**Proof sketch.** The shortest digits end with a digit other than zero, by `exists_shortest_eq`, and
laying them out keeps what they denote. -/
lemma exists_laid {b : Binary} (hd : d.Valid) (hb : d.magnitude = some b) :
    ∃ c p, Laid (ofDouble d) c p := by
  obtain ⟨-, hpos, -⟩ := hd b hb
  obtain ⟨c, p, hc, hmod, hshortest⟩ := exists_shortest_eq (proper_interval hpos)
  have hliteral : ofDouble d = ofFigures jsonLayout d.negative
      ⟨Decimal.ofNat c, (Decimal.ofNat c).length + p⟩ := by
    rw [ofDouble, hb, ← hshortest]
  refine ⟨c, p, hc, hmod, ?_, d.negative, hliteral⟩
  obtain ⟨ch, cs, heq, -⟩ := ofNat_eq_cons hc
  rw [hliteral, amount_ofFigures _ (by simp [heq]), Figures.amount, value_ofNat,
    add_sub_cancel_left]

namespace Laid

variable {m : Numeral} {c : ℕ} {p : ℤ}

/-- Without an exponent, as many digits stand behind the point as the power tells. -/
lemma length_part {ds : List Char} (hds : 0 < ds.length) (p : ℤ) :
    (Figures.part ⟨ds, ds.length + p⟩).length = (-p).toNat := by
  unfold Figures.part
  dsimp only
  split
  · rw [List.length_append, List.length_replicate]
    omega
  · rw [List.length_drop]
    omega

/-- The power of the literal is that of the digits, unless zeros stand behind them.

**Proof sketch.** If the digits are laid out without an exponent, the power is that of the part
behind the point, which is zero if zeros had to be appended. With an exponent, the exponent and the
part behind the point add up to the power of the digits. -/
lemma power_eq (h : Laid m c p) : m.power = p ∨ m.power = 0 ∧ 0 ≤ p := by
  obtain ⟨negative, rfl⟩ := h.shown
  obtain ⟨hlength, -⟩ := length_ofNat h.pos
  unfold ofFigures
  split
  · have hpart := length_part hlength p
    set part := Figures.part ⟨Decimal.ofNat c, (Decimal.ofNat c).length + p⟩
    have hshown : ((if part.isEmpty then none else some part).getD []).length = (-p).toNat := by
      rw [← hpart]
      cases part <;> rfl
    simp only [power, shift, hshown]
    omega
  · have hshown : ((if (Decimal.ofNat c).length ≤ 1 then none
        else some ((Decimal.ofNat c).drop 1)).getD []).length = (Decimal.ofNat c).length - 1 := by
      split
      · simp only [Option.getD_none, List.length_nil]
        omega
      · rw [Option.getD_some, List.length_drop]
    simp only [power, shift, hshown, value_exponentDigits, Option.some.injEq, decide_eq_true_eq]
    left
    split <;> omega

/-- Of all ways to write the number, the one without zeros at the end has the largest power.

**Proof sketch.** If another way had a larger power, then the digits of this one would end with a
zero. -/
lemma le_power (h : Laid m c p) {a : ℕ} {q : ℤ} (heq : m.amount = a * 10 ^ q) : q ≤ p := by
  by_contra hlt
  obtain ⟨k, rfl⟩ : ∃ k : ℕ, q = p + (k + 1 : ℕ) := ⟨(q - p - 1).toNat, by omega⟩
  have hten : (10 : ℚ) ^ p ≠ 0 := zpow_ne_zero _ (by norm_num)
  have hc : (c : ℚ) = a * 10 ^ (k + 1) := by
    rw [h.amount_eq, zpow_add₀ (by norm_num), zpow_natCast, mul_left_comm, mul_comm (10 ^ p)] at heq
    exact mul_right_cancel₀ hten heq
  have hc' : c = a * 10 ^ (k + 1) := by exact_mod_cast hc
  refine h.mod_ne_zero (Nat.mod_eq_zero_of_dvd ?_)
  rw [hc', pow_succ]
  exact Dvd.intro_left (a * 10 ^ k) (by ring)

/-- The digits of the exponent, if there is one, tell the place of the first digit. -/
lemma exponent_eq (h : Laid m c p) {e : Exponent} (he : m.exponent = some e) :
    value e.digits = ((Decimal.ofNat c).length + p - 1).natAbs := by
  obtain ⟨negative, rfl⟩ := h.shown
  unfold ofFigures at he
  split at he
  · cases he
  · cases he
    exact value_exponentDigits _

/-- **Within the range of doubles, the literal is exact** if the number has an exact literal at
all.

**Proof sketch.** The bounds on the value bound the place of its first digit, by `amount_bounds`,
and the number of digits follows from the other literal by `le_power`. So the power of the literal
is far from where exactness ends. -/
lemma isExact (h : Laid m c p) (hlow : (2 : ℚ) ^ (-1075 : ℤ) ≤ m.amount)
    (hhigh : m.amount < 2 ^ (1025 : ℤ)) {a : ℕ} {q : ℤ} (heq : m.amount = a * 10 ^ q)
    (hq : q.natAbs ≤ 1000000) : m.isExact = true := by
  obtain ⟨hfirst, hbefore⟩ := Json.amount_bounds h.pos p
  rw [← h.amount_eq] at hfirst hbefore
  have hle := h.le_power heq
  have hlength := (length_ofNat h.pos).1
  have hupper := lt_of_zpow_le hhigh hfirst
  have hlower := lt_of_lt_zpow hlow hbefore
  have hpower : m.power.natAbs ≤ 1000000 := by
    rcases h.power_eq with hp | ⟨hp, -⟩ <;> omega
  rw [Numeral.isExact, Bool.and_eq_true, Bool.or_eq_true, decide_eq_true_eq]
  refine ⟨?_, .inr hpower⟩
  split
  · rfl
  · next e he =>
    rw [decide_eq_true_eq, h.exponent_eq he]
    omega

/-- **A natural number below `10 ^ 21` is written without a point and without an exponent.**

**Proof sketch.** A natural number has no digits behind the point, and one below `10 ^ 21` is laid
out without an exponent. -/
lemma plain (h : Laid m c p) {a : ℕ} (heq : m.amount = a) (ha : a < 10 ^ 21) :
    m.fraction = none ∧ m.exponent = none := by
  obtain ⟨hfirst, hbefore⟩ := Json.amount_bounds h.pos p
  rw [← h.amount_eq] at hfirst hbefore
  have hp : 0 ≤ p := h.le_power (a := a) (q := 0) (by rw [heq, zpow_zero, mul_one])
  have hlength := (length_ofNat h.pos).1
  have hbelow : (Decimal.ofNat c).length + p - 1 < 21 := by
    have hlt : (10 : ℚ) ^ ((Decimal.ofNat c).length + p - 1) < 10 ^ (21 : ℤ) := by
      refine hfirst.trans_lt ?_
      rw [heq]
      exact_mod_cast ha
    exact (zpow_lt_zpow_iff_right₀ (by norm_num)).1 hlt
  obtain ⟨negative, rfl⟩ := h.shown
  have hpositional : jsonLayout.isPositional
      ⟨Decimal.ofNat c, (Decimal.ofNat c).length + p⟩ = true := by
    rw [Layout.isPositional, Bool.and_eq_true]
    constructor
    · exact decide_eq_true (show (-6 : ℤ) ≤ (Decimal.ofNat c).length + p - 1 by omega)
    · exact decide_eq_true hbelow
  have hpart : (Figures.part ⟨Decimal.ofNat c, (Decimal.ofNat c).length + p⟩).isEmpty = true := by
    rw [List.isEmpty_iff, ← List.length_eq_zero_iff, length_part hlength]
    omega
  rw [ofFigures, if_pos hpositional, if_pos hpart]
  exact ⟨rfl, rfl⟩

end Laid

/-! ## What survives -/

/-- A literal that denotes zero comes out as a plain zero, another one that survives as laid out
digits within the range of doubles.

**Proof sketch.** By whether the literal is rounded to zero. If it is not, what comes out lies in
the interval of the double, and `Double.Valid.bounds` gives the range. -/
lemma Survives.cases (h : n.Survives) :
    (n.coefficient = 0 ∧ n.rounded = ⟨n.negative, ['0'], none, none⟩) ∨
      (n.coefficient ≠ 0 ∧ (∃ c p, Laid n.rounded c p) ∧ (2 : ℚ) ^ (-1075 : ℤ) ≤ n.amount ∧
        n.amount < 2 ^ (1025 : ℤ)) := by
  obtain ⟨hsome, hamount⟩ := h
  obtain ⟨d, hd⟩ := Option.isSome_iff_exists.1 hsome
  have hvalid := valid_of_double? hd
  rw [rounded_eq hd] at hamount ⊢
  cases hb : d.magnitude with
  | none =>
    have hliteral : ofDouble d = ⟨n.negative, ['0'], none, none⟩ := by
      rw [ofDouble, hb, negative_of_double? hd]
    have hzero : (ofDouble d).coefficient = 0 := by
      rw [hliteral]
      rfl
    rw [(amount_eq_zero_iff _).2 hzero, eq_comm, amount_eq_zero_iff] at hamount
    exact .inl ⟨hamount, hliteral⟩
  | some b =>
    obtain ⟨hmem, -⟩ := hvalid.shortest hb
    obtain ⟨hlow, hhigh⟩ := hvalid.bounds hb hmem
    rw [hamount] at hlow hhigh
    refine .inr ⟨fun hzero => ?_, exists_laid hvalid hb, hlow, hhigh⟩
    have hpos : (0 : ℚ) < 2 ^ (-1075 : ℤ) := by positivity
    rw [(amount_eq_zero_iff n).2 hzero] at hlow
    linarith

/-- **An exact literal comes out as an exact one.** -/
theorem Survives.isExact (h : n.Survives) (hexact : n.isExact = true) :
    n.rounded.isExact = true := by
  obtain ⟨-, hrounded⟩ | ⟨hne, ⟨c, p, hlaid⟩, hlow, hhigh⟩ := h.cases
  · rw [hrounded]
    rfl
  · rw [← h.2] at hlow hhigh
    refine hlaid.isExact hlow hhigh h.2 ?_
    rw [Numeral.isExact, Bool.and_eq_true, Bool.or_eq_true, decide_eq_true_eq, beq_iff_eq] at hexact
    exact hexact.2.resolve_left hne

/-- A literal without point and exponent denotes its digits. -/
lemma amount_of_plain (hfraction : n.fraction = none) (hexponent : n.exponent = none) :
    n.amount = value n.whole := by
  have hcoefficient : n.coefficient = value n.whole := by simp [coefficient, hfraction]
  have hpower : n.power = 0 := by simp [power, shift, hfraction, hexponent]
  rw [amount, hcoefficient, hpower, zpow_zero, mul_one]

/-- The integer of a literal without point and exponent. -/
lemma int?_of_plain (hfraction : n.fraction = none) (hexponent : n.exponent = none) :
    n.int? = some (if n.negative then -(value n.whole : Int) else value n.whole) := by
  rw [int?, hfraction, hexponent]

/-- **A plain integer comes out as a plain integer.**

**Proof sketch.** The range of 64 bits is below `10 ^ 21`, so what comes out is plain by
`Laid.plain`. It has the same value and the same sign. -/
theorem Survives.int64?_eq (h : n.Survives) {i : Int} (hi : n.int64? = some i) :
    n.rounded.int64? = some i := by
  rw [int64?, Option.filter_eq_some_iff] at hi ⊢
  obtain ⟨hint, hrange⟩ := hi
  refine ⟨?_, hrange⟩
  obtain ⟨hfraction, hexponent⟩ : n.fraction = none ∧ n.exponent = none := by
    unfold int? at hint
    split at hint
    · next hf he => exact ⟨hf, he⟩
    · cases hint
  rw [int?_of_plain hfraction hexponent] at hint
  have hamount := amount_of_plain hfraction hexponent
  have hsmall : value n.whole < 10 ^ 21 := by
    simp only [inInt64, Bool.and_eq_true, decide_eq_true_eq] at hrange
    have hi := Option.some.inj hint
    split at hi <;> omega
  have hplain : n.rounded.fraction = none ∧ n.rounded.exponent = none := by
    obtain ⟨-, hrounded⟩ | ⟨-, ⟨c, p, hlaid⟩, -⟩ := h.cases
    · rw [hrounded]
      exact ⟨rfl, rfl⟩
    · exact hlaid.plain (h.2.trans hamount) hsmall
  have hvalue : value n.rounded.whole = value n.whole := by
    have heq := h.2
    rw [hamount, amount_of_plain hplain.1 hplain.2] at heq
    exact_mod_cast heq
  rw [int?_of_plain hplain.1 hplain.2, negative_rounded h.1, hvalue]
  exact hint

end Numeral

/-! ## Whole values -/

/-- Every number comes out of a double with the value that it had before. -/
inductive Survives : Json → Prop
  | null : Survives .null
  | bool (b : Bool) : Survives (.bool b)
  | num {n : Numeral} (h : n.Survives) : Survives (.num n)
  | str (s : String) : Survives (.str s)
  | arr {items : List Json} (h : ∀ v ∈ items, Survives v) : Survives (.arr items)
  | obj {members : List (String × Json)} (h : ∀ m ∈ members, Survives m.2) :
      Survives (.obj members)

/-- The value with every number as it comes out of a double. -/
def rounded : Json → Json
  | .num n => .num n.rounded
  | .arr items => .arr (roundedItems items)
  | .obj members => .obj (roundedMembers members)
  | v => v
where
  /-- Item by item. -/
  roundedItems : List Json → List Json
    | [] => []
    | v :: rest => rounded v :: roundedItems rest
  /-- Member by member. -/
  roundedMembers : List (String × Json) → List (String × Json)
    | [] => []
    | (k, v) :: rest => (k, rounded v) :: roundedMembers rest

/-- Items come out one by one. -/
lemma roundedItems_eq_map (items : List Json) :
    rounded.roundedItems items = items.map rounded := by
  induction items with
  | nil => rfl
  | cons v rest ih => rw [rounded.roundedItems, ih, List.map_cons]

/-- Members come out one by one. -/
lemma roundedMembers_eq_map (members : List (String × Json)) :
    rounded.roundedMembers members = members.map fun m => (m.1, rounded m.2) := by
  induction members with
  | nil => rfl
  | cons m rest ih => rw [rounded.roundedMembers, ih, List.map_cons]

/-- Truth values stay as they are. -/
@[simp] lemma rounded_bool (b : Bool) : (Json.bool b).rounded = .bool b := rfl

/-- A number is rounded. -/
@[simp] lemma rounded_num (n : Numeral) : (Json.num n).rounded = .num n.rounded := rfl

/-- Texts stay as they are. -/
@[simp] lemma rounded_str (s : String) : (Json.str s).rounded = .str s := rfl

/-- In a list every item is rounded. -/
@[simp] lemma rounded_arr (items : List Json) :
    (Json.arr items).rounded = .arr (items.map rounded) := by
  rw [rounded, roundedItems_eq_map]

/-- In an object every member is rounded. -/
@[simp] lemma rounded_obj (members : List (String × Json)) :
    (Json.obj members).rounded = .obj (members.map fun m => (m.1, m.2.rounded)) := by
  rw [rounded, roundedMembers_eq_map]

/-- A way to change numbers and the order of members, at every depth. Members may be left out, and
none are brought in. -/
structure Reshapes (g : Json → Json) : Prop where
  null : g .null = .null
  bool (b : Bool) : g (.bool b) = .bool b
  num (n : Numeral) : ∃ n', g (.num n) = .num n'
  str (s : String) : g (.str s) = .str s
  arr (items : List Json) : g (.arr items) = .arr (items.map g)
  obj (members : List (String × Json)) : ∃ members', g (.obj members) = .obj members' ∧
    ∀ m ∈ members', ∃ m' ∈ members, m = (m'.1, g m'.2)

/-- A way to put the members of objects in order, at every depth. -/
structure Arranges (g : Json → Json) : Prop extends Reshapes g where
  num_eq (n : Numeral) : g (.num n) = .num n

/-- What becomes a text was that text before.

**Proof sketch.** By the kind of the value: everything but a text stays what it is. -/
lemma Reshapes.eq_str {g : Json → Json} (hg : Reshapes g) {v : Json} {s : String}
    (h : g v = .str s) : v = .str s := by
  cases v with
  | str t => rwa [hg.str] at h
  | null => rw [hg.null] at h; cases h
  | bool b => rw [hg.bool] at h; cases h
  | num n =>
    obtain ⟨n', hn'⟩ := hg.num n
    rw [hn'] at h
    cases h
  | arr items => rw [hg.arr] at h; cases h
  | obj members =>
    obtain ⟨members', hmembers, -⟩ := hg.obj members
    rw [hmembers] at h
    cases h

/-- What becomes a list of texts was that list before. -/
lemma Reshapes.eq_map_str {g : Json → Json} (hg : Reshapes g) {items : List Json}
    {texts : List String} (h : items.map g = texts.map .str) : items = texts.map .str := by
  induction texts generalizing items with
  | nil => simpa using h
  | cons s texts ih =>
    obtain ⟨v, rest, rfl, hv, hrest⟩ := List.map_eq_cons_iff.1 h
    rw [hg.eq_str hv, ih hrest, List.map_cons]

/-- Passing through doubles changes numbers only. -/
lemma reshapes_rounded : Reshapes rounded where
  null := rfl
  bool _ := rfl
  num n := ⟨n.rounded, rfl⟩
  str _ := rfl
  arr := rounded_arr
  obj members := by
    refine ⟨_, rounded_obj members, fun m hm => ?_⟩
    obtain ⟨m', hm', rfl⟩ := List.mem_map.1 hm
    exact ⟨m', hm', rfl⟩

/-- Settling puts members in order.

**Proof sketch.** For the members, every entry of the sorted list is one of the settled members. -/
lemma arranges_settle : Arranges settle where
  null := rfl
  bool _ := rfl
  num n := ⟨n, rfl⟩
  num_eq _ := rfl
  str _ := rfl
  arr items := by rw [settle, settleItems_eq_map]
  obj members := by
    rw [settle, settleMembers_eq_map]
    refine ⟨_, rfl, fun m hm => ?_⟩
    obtain ⟨m', hm', rfl⟩ := List.mem_map.1 (mem_of_mem_sortLast hm)
    exact ⟨m', hm', rfl⟩

/-- **Settling and passing through doubles go in any order.**

**Proof sketch.** By induction on the value. The members are sorted by their names, which are the
same on both sides, so sorting and rounding go in any order by `sortLast_map`. -/
theorem settle_rounded (v : Json) : v.rounded.settle = v.settle.rounded := by
  induction v using Json.induction with
  | null | bool | num | str => rfl
  | arr items ih =>
    rw [rounded_arr, settle, settle, settleItems_eq_map, settleItems_eq_map, rounded_arr,
      List.map_map, List.map_map]
    exact congrArg Json.arr (List.map_congr_left ih)
  | obj members ih =>
    have hmembers : (members.map fun m => (m.1, settle m.2.rounded)) =
        members.map fun m => (m.1, (settle m.2).rounded) :=
      List.map_congr_left fun m hm => Prod.ext rfl (ih m hm)
    rw [rounded_obj, settle, settle, settleMembers_eq_map, settleMembers_eq_map, rounded_obj,
      ← sortLast_map, List.map_map, List.map_map]
    exact congrArg (fun ms => Json.obj (sortLast ms)) hmembers

/-- Items that are all rounded. -/
lemma roundItems?_eq_map {g : Json → Json} {items : List Json}
    (h : ∀ v ∈ items, round? (g v) = some v.rounded) :
    roundItems? (items.map g) = some (items.map rounded) := by
  induction items with
  | nil => rfl
  | cons v rest ih =>
    rw [List.forall_mem_cons] at h
    rw [List.map_cons, roundItems?, h.1, ih h.2, List.map_cons]

/-- Members that are all rounded. -/
lemma roundMembers?_eq_map {g : Json → Json} {members : List (String × Json)}
    (h : ∀ m ∈ members, round? (g m.2) = some m.2.rounded) :
    roundMembers? (members.map fun m => (m.1, g m.2)) =
      some (members.map fun m => (m.1, m.2.rounded)) := by
  induction members with
  | nil => rfl
  | cons m rest ih =>
    rw [List.forall_mem_cons] at h
    rw [List.map_cons, roundMembers?, h.1, ih h.2, List.map_cons]

namespace Survives

variable {v : Json}

/-- A value whose numbers survive is within the range of doubles.

**Proof sketch.** Induction on the survival of the value. A number that survives has a double, and
the items and members are rounded one by one. -/
lemma round?_eq (h : v.Survives) : round? v = some v.rounded := by
  induction h with
  | null | bool | str => rfl
  | @num n h =>
    obtain ⟨d, hd⟩ := Option.isSome_iff_exists.1 h.1
    rw [round?, rounded, hd, Option.map_some, Numeral.rounded_eq hd]
  | @arr items _ ih =>
    have hitems := roundItems?_eq_map (g := id) ih
    rw [List.map_id] at hitems
    rw [round?, hitems, Option.map_some, rounded, roundedItems_eq_map]
  | @obj members _ ih =>
    have hmembers := roundMembers?_eq_map (g := id) ih
    simp only [id, Prod.mk.eta, List.map_id'] at hmembers
    rw [round?, hmembers, Option.map_some, rounded, roundedMembers_eq_map]

/-- What came out of doubles passes through them unchanged.

**Proof sketch.** Induction on the survival of the value. A number that came out of a double is
rounded to the same double. -/
lemma round?_rounded (h : v.Survives) : round? v.rounded = some v.rounded := by
  induction h with
  | null | bool | str => rfl
  | @num n h =>
    obtain ⟨d, hd⟩ := Option.isSome_iff_exists.1 h.1
    rw [rounded, round?, Numeral.double?_rounded h.1, hd, Option.map_some, Numeral.rounded_eq hd]
  | @arr items _ ih =>
    rw [rounded, roundedItems_eq_map, round?, roundItems?_eq_map ih, Option.map_some]
  | @obj members _ ih =>
    rw [rounded, roundedMembers_eq_map, round?, roundMembers?_eq_map ih, Option.map_some]

/-- The canonical form of a value whose numbers survive. -/
lemma canonical?_eq (h : v.Survives) : canonical? v = some v.settle.rounded := by
  rw [canonical?, h.round?_eq, Option.map_some, settle_rounded]

/-- **Passing through doubles keeps the canonical text.** -/
theorem canonicalText?_rounded (h : v.Survives) :
    canonicalText? v.rounded = canonicalText? v := by
  rw [canonicalText?, canonicalText?, canonical?, canonical?, h.round?_rounded, h.round?_eq]

/-- Putting members in order keeps numbers.

**Proof sketch.** Induction on the survival of the value. The numbers stay, and the members are
among those that were there. -/
lemma arranged {g : Json → Json} (hg : Arranges g) (h : v.Survives) : (g v).Survives := by
  induction h with
  | null =>
    rw [hg.null]
    exact .null
  | bool b =>
    rw [hg.bool]
    exact .bool b
  | num h =>
    rw [hg.num_eq]
    exact .num h
  | str s =>
    rw [hg.str]
    exact .str s
  | @arr items _ ih =>
    rw [hg.arr]
    refine .arr fun w hw => ?_
    obtain ⟨v, hv, rfl⟩ := List.mem_map.1 hw
    exact ih v hv
  | @obj members _ ih =>
    obtain ⟨members', heq, hmembers⟩ := hg.obj members
    rw [heq]
    refine .obj fun m hm => ?_
    obtain ⟨m', hm', rfl⟩ := hmembers m hm
    exact ih m' hm'

end Survives

end Json

end SchemaKit
