import Mathlib.Data.String.Basic
import Mathlib.Order.Lattice
import Mathlib.Tactic.Common
import SchemaKit.Text.Utf8

/-!
# Texts and their bytes

Texts are ordered by their characters. The order of their bytes is the same one, since the encoding of a
character starts with how long it is, and goes on from its highest digits to its lowest. For the same
reason a text can be read back from its bytes.

## Main definitions

* `SchemaKit.Text.bytes` — the bytes of a text.

## Main results

* `SchemaKit.Text.toList_toUTF8` — the bytes of a text are those that stand in its row of bytes.
* `SchemaKit.Text.bytes_lt_iff` — texts and their bytes are in the same order.
* `SchemaKit.Text.decode_bytes` — what is read from the bytes of a text.
-/

namespace SchemaKit.Text

/-- The bytes of a text. -/
def bytes (s : String) : List UInt8 := s.toList.flatMap String.utf8EncodeChar

/-- The bytes that stand from some place on in a row, behind those that were taken before.

**Proof sketch.** By induction along the loop. One more byte is taken in each turn, and at the end
nothing is left. -/
lemma toList_loop_eq (row : ByteArray) (i : Nat) (taken : List UInt8) :
    ByteArray.toList.loop row i taken = taken.reverse ++ row.data.toList.drop i := by
  fun_induction ByteArray.toList.loop row i taken with
  | case1 i taken hi ih =>
    have hlength : i < row.data.toList.length := by simpa using hi
    have hbyte : row.get! i = row.data.toList[i] := by
      rw [ByteArray.get!, Array.getElem_toList]
      exact getElem!_pos row.data i (by simpa using hi)
    rw [ih, List.drop_eq_getElem_cons hlength, hbyte, List.reverse_cons, List.append_assoc]
    rfl
  | case2 i taken hi =>
    rw [List.drop_eq_nil_of_le (by simpa using hi), List.append_nil]

/-- The bytes of a text, as they stand in a row. -/
lemma toList_toUTF8 (s : String) : s.toUTF8.toList = bytes s := by
  rw [ByteArray.toList, toList_loop_eq, String.toUTF8_eq_toByteArray, ← String.utf8Encode_toList,
    List.utf8Encode, List.data_toByteArray, bytes]
  rfl

/-- A number below 256 is the number of its byte. -/
lemma toNat_ofNat {m : Nat} (hm : m < 256) : (UInt8.ofNat m).toNat = m := by
  rw [UInt8.toNat_ofNat', Nat.mod_eq_of_lt hm]

/-- Numbers below 256 as bytes. -/
lemma ofNat_lt_ofNat_iff {m n : Nat} (hm : m < 256) (hn : n < 256) :
    UInt8.ofNat m < UInt8.ofNat n ↔ m < n := by
  rw [UInt8.lt_iff_toNat_lt, toNat_ofNat hm, toNat_ofNat hn]

/-- Numbers below 256 are told apart as bytes. -/
lemma ofNat_eq_ofNat_iff {m n : Nat} (hm : m < 256) (hn : n < 256) :
    UInt8.ofNat m = UInt8.ofNat n ↔ m = n := by
  rw [← UInt8.toNat_inj, toNat_ofNat hm, toNat_ofNat hn]

/-- **The encoding of a smaller character is smaller**, whatever follows: the two differ within the
shorter one.

**Proof sketch.** An encoding is the digits of the character's number to base 64, with a mark on the
first one that grows with their count. The first digit in which two numbers differ decides, and the
number with more digits is larger. -/
lemma encode_append_lt {c d : Char} (h : c < d) (x y : List UInt8) :
    String.utf8EncodeChar c ++ x < String.utf8EncodeChar d ++ y := by
  have hlt : c.val.toNat < d.val.toNat := h
  have hd : d.val.toNat < 1114112 := by
    have := d.valid
    simp only [UInt32.isValidChar, Nat.isValidChar] at this
    omega
  generalize hc : c.val.toNat = v at hlt
  generalize hd' : d.val.toNat = w at hlt hd
  -- how the numbers that are left of the digits to base 64 compare
  have h64 : v / 64 ≤ w / 64 := Nat.div_le_div_right hlt.le
  have h4096 : v / 64 / 64 ≤ w / 64 / 64 := Nat.div_le_div_right h64
  have h262144 : v / 64 / 64 / 64 ≤ w / 64 / 64 / 64 := Nat.div_le_div_right h4096
  have hquotient : ∀ n, n / 4096 = n / 64 / 64 ∧ n / 262144 = n / 64 / 64 / 64 := fun n =>
    ⟨(Nat.div_div_eq_div_mul n 64 64).symm,
      by rw [Nat.div_div_eq_div_mul n 64 64, Nat.div_div_eq_div_mul n (64 * 64) 64]⟩
  simp only [String.utf8EncodeChar, hc, hd', hquotient]
  split_ifs <;>
    simp (disch := omega) only [List.cons_append, List.nil_append, List.cons_lt_cons_iff,
      ofNat_lt_ofNat_iff, ofNat_eq_ofNat_iff] <;>
    omega

/-- A common start does not matter for the order. -/
lemma append_lt_append_iff {l x y : List UInt8} : l ++ x < l ++ y ↔ x < y := by
  induction l with
  | nil => rfl
  | cons b l ih => simp [ih]

/-- Lists of characters and their encodings are in the same order.

**Proof sketch.** By induction on both lists. The first characters are the same, or their encodings
are ordered like them, whatever follows. -/
lemma flatMap_encode_lt_iff {s t : List Char} :
    s.flatMap String.utf8EncodeChar < t.flatMap String.utf8EncodeChar ↔ s < t := by
  induction s generalizing t with
  | nil =>
    cases t with
    | nil => simp
    | cons d t =>
      obtain ⟨b, rest, hencode⟩ := List.exists_cons_of_ne_nil (String.utf8EncodeChar_ne_nil (c := d))
      simp [hencode]
  | cons c s ih =>
    cases t with
    | nil => simp
    | cons d t =>
      rw [List.flatMap_cons, List.flatMap_cons, List.cons_lt_cons_iff]
      rcases lt_trichotomy c d with h | rfl | h
      · simp [h, encode_append_lt h]
      · rw [append_lt_append_iff, ih]
        simp
      · have hlt := encode_append_lt h (t.flatMap String.utf8EncodeChar)
          (s.flatMap String.utf8EncodeChar)
        simp [h.not_gt, h.ne', List.lt_asymm hlt]

/-- **Texts and their bytes are in the same order.** -/
theorem bytes_lt_iff {s t : String} : bytes s < bytes t ↔ s < t := by
  rw [bytes, bytes, flatMap_encode_lt_iff, String.lt_iff_toList_lt]

/-! ## Reading bytes -/

/-- A byte below `0x80` is read as the character of its number, whatever follows. -/
lemma charAt?_one {a : UInt8} (ha : a < 0x80) (rest : List UInt8) :
    charAt? a rest = some (Char.ofNat a.toNat, 0) := by
  match rest with
  | [] | [_] | [_, _] | _ :: _ :: _ :: _ => simp only [charAt?, if_pos ha]

/-- A sequence of two bytes is read, whatever follows. -/
lemma charAt?_two {a b : UInt8} (ha : ¬a < 0x80) (h : leadsTwo a b = true) (rest : List UInt8) :
    charAt? a (b :: rest) = some (joinTwo a b, 1) := by
  match rest with
  | [] | [_] | _ :: _ :: _ => simp only [charAt?, if_neg ha, h, if_true]

/-- A sequence of three bytes is read, whatever follows. -/
lemma charAt?_three {a b c : UInt8} (ha : ¬a < 0x80) (htwo : leadsTwo a b = false)
    (h : leadsThree a b = true) (hc : isContinuation c = true) (rest : List UInt8) :
    charAt? a (b :: c :: rest) = some (joinThree a b c, 2) := by
  match rest with
  | [] | _ :: _ => simp [charAt?, if_neg ha, htwo, h, hc]

/-- A sequence of four bytes is read, whatever follows. -/
lemma charAt?_four {a b c d : UInt8} (ha : ¬a < 0x80) (htwo : leadsTwo a b = false)
    (hthree : leadsThree a b = false) (h : leadsFour a b = true) (hc : isContinuation c = true)
    (hd : isContinuation d = true) (rest : List UInt8) :
    charAt? a (b :: c :: d :: rest) = some (joinFour a b c d, 3) := by
  simp [charAt?, if_neg ha, htwo, hthree, h, hc, hd]

/-- A number from `0x80` on is no byte of one that is read by itself. -/
lemma not_ofNat_lt {n : Nat} (hn : 128 ≤ n) (hn' : n < 256) : ¬UInt8.ofNat n < 0x80 := by
  rw [UInt8.lt_iff_toNat_lt, toNat_ofNat hn', not_lt]
  exact hn

/-- A digit to base 64 is written as a byte that continues a sequence. -/
lemma isContinuation_ofNat (n : Nat) : isContinuation (UInt8.ofNat (n % 64 + 128)) = true := by
  simp [isContinuation, UInt8.le_iff_toNat_le]
  omega

/-- This byte holds the digit. -/
lemma payload_ofNat (n : Nat) : payload (UInt8.ofNat (n % 64 + 128)) = n % 64 := by
  rw [payload, toNat_ofNat (by omega)]
  omega

section

variable {m : Nat} (hm : m < 256) (n : Nat)

include hm

/-- Which bytes lead a sequence of two, before a digit to base 64. -/
lemma leadsTwo_ofNat :
    leadsTwo (UInt8.ofNat m) (UInt8.ofNat (n % 64 + 128)) = true ↔ 0xC2 ≤ m ∧ m ≤ 0xDF := by
  rw [leadsTwo, isContinuation_ofNat]
  simp [UInt8.le_iff_toNat_le, Nat.mod_eq_of_lt hm]

/-- Which bytes lead a sequence of three, before a digit to base 64. -/
lemma leadsThree_ofNat :
    leadsThree (UInt8.ofNat m) (UInt8.ofNat (n % 64 + 128)) = true ↔
      0xE0 ≤ m ∧ m ≤ 0xEF ∧ (m = 0xE0 → 32 ≤ n % 64) ∧ (m = 0xED → n % 64 < 32) := by
  rw [leadsThree, isContinuation_ofNat]
  simp [UInt8.le_iff_toNat_le, ← UInt8.toNat_inj, Nat.mod_eq_of_lt hm]
  omega

/-- Which bytes lead a sequence of four, before a digit to base 64. -/
lemma leadsFour_ofNat :
    leadsFour (UInt8.ofNat m) (UInt8.ofNat (n % 64 + 128)) = true ↔
      0xF0 ≤ m ∧ m ≤ 0xF4 ∧ (m = 0xF0 → 16 ≤ n % 64) ∧ (m = 0xF4 → n % 64 < 16) := by
  rw [leadsFour, isContinuation_ofNat]
  simp [UInt8.le_iff_toNat_le, ← UInt8.toNat_inj, Nat.mod_eq_of_lt hm]
  omega

end

/-- **A character is read from its bytes**, whatever follows: the first byte says how many belong to it,
and the digits that they hold are those of its number.

**Proof sketch.** By the number of bytes of the encoding. In each of the four cases the first byte
lies in the range for this number, the other bytes continue it, and putting the digits together
gives the number back; no shorter form fits. -/
lemma exists_charAt?_encode (c : Char) (rest : List UInt8) :
    ∃ a tail, String.utf8EncodeChar c = a :: tail ∧
      charAt? a (tail ++ rest) = some (c, tail.length) := by
  have hc : Char.ofNat c.val.toNat = c := Char.ofNat_toNat c
  have hvalid : c.val.toNat < 0xD800 ∨ 0xDFFF < c.val.toNat ∧ c.val.toNat < 0x110000 := c.valid
  generalize hv : c.val.toNat = v at hc hvalid
  subst hc
  simp only [String.utf8EncodeChar, hv]
  split_ifs with hone htwo hthree
  · refine ⟨_, _, rfl, ?_⟩
    have hbyte : (UInt8.ofNat v).toNat = v := toNat_ofNat (by omega)
    rw [List.nil_append, charAt?_one (UInt8.lt_iff_toNat_lt.2 ?_), hbyte]
    · rfl
    · rw [hbyte]
      exact Nat.lt_succ_of_le hone
  · refine ⟨_, _, rfl, ?_⟩
    rw [List.cons_append, charAt?_two (not_ofNat_lt (by omega) (by omega))]
    · rw [joinTwo, payload_ofNat, toNat_ofNat (by omega)]
      congr 3
      omega
    · rw [leadsTwo_ofNat (by omega)]
      omega
  · refine ⟨_, _, rfl, ?_⟩
    rw [List.cons_append, List.cons_append, charAt?_three (not_ofNat_lt (by omega) (by omega))]
    · rw [joinThree, payload_ofNat, payload_ofNat, toNat_ofNat (by omega)]
      congr 3
      omega
    · rw [Bool.eq_false_iff, ne_eq, leadsTwo_ofNat (by omega)]
      omega
    · rw [leadsThree_ofNat (by omega)]
      omega
    · exact isContinuation_ofNat _
  · refine ⟨_, _, rfl, ?_⟩
    rw [List.cons_append, List.cons_append, List.cons_append,
      charAt?_four (not_ofNat_lt (by omega) (by omega))]
    · rw [joinFour, payload_ofNat, payload_ofNat, payload_ofNat, toNat_ofNat (by omega)]
      congr 3
      omega
    · rw [Bool.eq_false_iff, ne_eq, leadsTwo_ofNat (by omega)]
      omega
    · rw [Bool.eq_false_iff, ne_eq, leadsThree_ofNat (by omega)]
      omega
    · rw [leadsFour_ofNat (by omega)]
      omega
    · exact isContinuation_ofNat _
    · exact isContinuation_ofNat _

/-- Bytes that belong to the character before them are passed over. -/
lemma piecesAfter_append (tail rest : List UInt8) :
    piecesAfter tail.length (tail ++ rest) = piecesAfter 0 rest := by
  induction tail with
  | nil => rfl
  | cons b tail ih => exact ih

/-- The pieces of the bytes of characters are these characters. -/
lemma pieces_flatMap_encode (cs : List Char) :
    pieces (cs.flatMap String.utf8EncodeChar) = cs.map .char := by
  induction cs with
  | nil => rfl
  | cons c cs ih =>
    obtain ⟨a, tail, hencode, hat⟩ := exists_charAt?_encode c (cs.flatMap String.utf8EncodeChar)
    rw [List.flatMap_cons, hencode, List.cons_append, pieces, piecesAfter, hat, List.map_cons, ← ih]
    exact congrArg _ (piecesAfter_append tail _)

/-- **A text is read back from its bytes.** -/
theorem decode_bytes (s : String) : decode (bytes s) = s.toList := by
  rw [decode, bytes, pieces_flatMap_encode, List.map_map]
  exact List.map_id _

/-- Bytes below `0x80` are read one by one. -/
lemma decode_eq_map {bs : List UInt8} (h : ∀ b ∈ bs, b < 0x80) :
    decode bs = bs.map fun b => Char.ofNat b.toNat := by
  induction bs with
  | nil => rfl
  | cons b rest ih =>
    rw [List.forall_mem_cons] at h
    rw [List.map_cons, ← ih h.2, decode, pieces, piecesAfter, charAt?_one h.1]
    rfl

end SchemaKit.Text
