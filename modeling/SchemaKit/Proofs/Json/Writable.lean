import SchemaKit.Json.Writable
import SchemaKit.Proofs.Json.Reading

/-!
# Which values can be written

The check that is made before a value is written asks for exactly what the reader needs: that every
number is a well-formed literal. So what can be written can be told from its text.

## Main results

* `SchemaKit.Json.isWritable_iff` — the values that can be written are the well-formed ones.
-/

namespace SchemaKit.Json

/-- The check of digits asks for at least one digit and nothing else. -/
lemma isDigitRow_iff {ds : List Char} : isDigitRow ds = true ↔ IsDigits ds := by
  simp [isDigitRow, IsDigits]

/-- The check of the digits before the point admits a single zero, and digits that do not start with
one.

**Proof sketch.** Both sides are disjunctions with the single zero as one case. In the other one the
digits are taken apart at the first of them, which exists because the row is not empty. -/
lemma isWholeRow_iff {ds : List Char} : isWholeRow ds = true ↔ IsWhole ds := by
  simp only [isWholeRow, Bool.or_eq_true, Bool.and_eq_true, beq_iff_eq, bne_iff_ne, isDigitRow_iff,
    IsWhole, IsDigits]
  refine or_congr_right ?_
  cases ds with
  | nil => simp
  | cons d rest => simp [and_comm]

/-- **The literals are the well-formed numerals.** -/
lemma Numeral.isLiteral_iff {n : Numeral} : n.isLiteral = true ↔ n.WellFormed := by
  simp only [isLiteral, Bool.and_eq_true, isWholeRow_iff, Option.all_eq_true, isDigitRow_iff]
  exact ⟨fun h => ⟨h.1.1, h.1.2, h.2⟩, fun h => ⟨⟨h.whole, h.fraction⟩, h.exponent⟩⟩

/-- Items can be written iff each of them can. -/
lemma writableItems_iff {items : List Json} :
    isWritable.writableItems items = true ↔ ∀ v ∈ items, v.isWritable = true := by
  induction items with
  | nil => simp [isWritable.writableItems]
  | cons v rest ih => simp [isWritable.writableItems, ih]

/-- Members can be written iff each of their values can. -/
lemma writableMembers_iff {members : List (String × Json)} :
    isWritable.writableMembers members = true ↔ ∀ m ∈ members, m.2.isWritable = true := by
  induction members with
  | nil => simp [isWritable.writableMembers]
  | cons m rest ih =>
    simp only [isWritable.writableMembers, Bool.and_eq_true, ih, List.forall_mem_cons]

/-- **The values that can be written are the well-formed ones.**

**Proof sketch.** By induction on the value. Numbers are the only values that either side asks anything
of, and containers pass both questions on to what they hold. -/
theorem isWritable_iff {v : Json} : v.isWritable = true ↔ v.WellFormed := by
  induction v using Json.induction with
  | null => exact ⟨fun _ => trivial, fun _ => rfl⟩
  | bool b => exact ⟨fun _ => trivial, fun _ => rfl⟩
  | str s => exact ⟨fun _ => trivial, fun _ => rfl⟩
  | num n => exact Numeral.isLiteral_iff
  | arr items ih =>
    rw [isWritable, writableItems_iff, WellFormed, wellFormedItems_iff]
    exact forall₂_congr ih
  | obj members ih =>
    rw [isWritable, writableMembers_iff, WellFormed, wellFormedMembers_iff]
    exact forall₂_congr ih

end SchemaKit.Json
