import Mathlib.Data.List.Basic
import Mathlib.Tactic.Common
import SchemaKit.Text.Kebab

/-!
# Words of names

A name in kebab case consists of the words of the name with dashes between them, so that two names
have one kebab case iff they have the same words. Without the dashes, kebab case is the name in lower
case. Lower case hides no more than folding does, with the exception of a single letter.

## Main definitions

* `SchemaKit.Text.isBreak` — the characters between words.
* `SchemaKit.Text.words` — the words of a name, in lower case.

## Main results

* `SchemaKit.Text.fold_toLower` — a letter and its lower case fold to one letter, with one exception.
* `SchemaKit.Text.kebab_eq_intercalate` — kebab case is the words with dashes between them.
* `SchemaKit.Text.kebab_eq_iff` — when two names have one kebab case.
* `SchemaKit.Text.filter_kebab` — kebab case without the dashes.

## Design

The statements about letters are about some thousand code points, but the tables list them in a few
hundred progressions. So the tables are compared progression by progression, by checks that are
evaluated, and what they say about each code point follows by arithmetic.
-/

namespace SchemaKit.Text

/-! ## Progressions -/

/-- What it means to lie on a progression. -/
lemma Run.has_iff {r : Run} {n : Nat} :
    r.has n = true ↔ r.first ≤ n ∧ n ≤ r.last ∧ (n - r.first) % r.step = 0 := by
  simp [Run.has, and_assoc]

/-- A progression moved by an offset. -/
def Run.moved (r : Run) (offset : Int) : Run :=
  ⟨((r.first : Int) + offset).toNat, ((r.last : Int) + offset).toNat, r.step⟩

/-- A code point moves along with the progression that it lies on. -/
lemma Run.has_moved {r : Run} {offset : Int} {n : Nat} (hpos : 0 ≤ (r.first : Int) + offset)
    (h : r.has n = true) : (r.moved offset).has ((n : Int) + offset).toNat = true := by
  rw [has_iff] at h ⊢
  obtain ⟨hfirst, hlast, hstep⟩ := h
  have hdistance : ((n : Int) + offset).toNat - ((r.first : Int) + offset).toNat = n - r.first := by
    omega
  dsimp only [moved]
  rw [hdistance]
  exact ⟨by omega, by omega, hstep⟩

/-- Whether the code points of a progression are all even or all odd. -/
def Run.isAlternating (r : Run) : Bool := Nat.beq r.step 2 || Nat.beq r.first r.last

/-- The code points of an alternating progression are even or odd as its first one is. -/
lemma Run.mod_two_eq {r : Run} (h : r.isAlternating = true) {n : Nat} (hn : r.has n = true) :
    n % 2 = r.first % 2 := by
  rw [has_iff] at hn
  simp only [isAlternating, Bool.or_eq_true, Nat.beq_eq] at h
  rcases h with hstep | hsingle
  · rw [hstep] at hn
    omega
  · omega

/-- Whether a progression has no code point in common with those of an ascending table: each ends
before it starts, or starts after it ends, or has the even code points where it has the odd ones. -/
def Run.avoids (r : Run) : (table : List (Run × Int)) → Bool
  | [] => true
  | e :: rest =>
    Nat.blt r.last e.1.first ||
      ((Nat.blt e.1.last r.first ||
        (r.isAlternating && e.1.isAlternating && Nat.beq ((r.first + e.1.first) % 2) 1)) &&
        r.avoids rest)

/-- A progression that is not empty ends before another one starts. -/
def Precedes (e f : Run × Int) : Prop := e.1.first ≤ e.1.last ∧ e.1.last < f.1.first

instance : DecidableRel Precedes := fun e f =>
  inferInstanceAs (Decidable (e.1.first ≤ e.1.last ∧ e.1.last < f.1.first))

instance : Trans Precedes Precedes Precedes where
  trans hef hfg := ⟨hef.1, Nat.lt_of_lt_of_le hef.2 (Nat.le_of_lt (Nat.lt_of_le_of_lt hfg.1 hfg.2))⟩

/-- No progression of a table has a code point of one that avoids the table.

**Proof sketch.** By induction on the table. The progression ends before the table starts, and so
before everything that comes later, or it avoids the first entry, by lying behind it or between its
members, and the rest as well. -/
lemma Run.has_eq_false {r : Run} {n : Nat} (hn : r.has n = true) {table : List (Run × Int)}
    (htable : table.Pairwise Precedes) (h : r.avoids table = true) :
    ∀ e ∈ table, e.1.has n = false := by
  induction table with
  | nil => exact fun _ he => nomatch he
  | cons f rest ih =>
    obtain ⟨hfirst, hrest⟩ := List.pairwise_cons.1 htable
    have hrange := has_iff.1 hn
    simp only [avoids, Bool.or_eq_true, Bool.and_eq_true, Nat.blt_eq, Nat.beq_eq] at h
    intro e he
    rw [Bool.eq_false_iff]
    intro hhas
    have hrange' := has_iff.1 hhas
    rcases h with hbefore | ⟨hafter, havoids⟩
    · -- the progression ends before the table starts
      rcases List.mem_cons.1 he with rfl | he
      · omega
      · obtain ⟨hle, hlt⟩ := hfirst e he
        omega
    · rcases List.mem_cons.1 he with rfl | he
      · rcases hafter with hafter | ⟨⟨halt, halt'⟩, hodd⟩
        · omega
        · have hmod := mod_two_eq halt hn
          have hmod' := mod_two_eq halt' hhas
          omega
      · rw [ih hrest havoids e he] at hhas
        exact Bool.false_ne_true hhas

section

variable {table : List (Run × Int)} {n : Nat}

/-- A code point that no progression of a table has stays where it is. -/
lemma shift_eq_self (h : ∀ e ∈ table, e.1.has n = false) : shift table n = n := by
  have hnone : table.find? (·.1.has n) = none := by simpa [List.find?_eq_none] using h
  rw [shift, hnone]

/-- A code point that does not stay where it is moves by the offset of a progression that has it. -/
lemma exists_shift_eq (h : shift table n ≠ n) :
    ∃ e ∈ table, e.1.has n = true ∧ shift table n = ((n : Int) + e.2).toNat := by
  cases hfind : table.find? (·.1.has n) with
  | none =>
    rw [shift, hfind] at h
    exact absurd rfl h
  | some e =>
    refine ⟨e, List.mem_of_find?_eq_some hfind, by simpa using List.find?_some hfind, ?_⟩
    rw [shift, hfind]

/-- In an ascending table, a code point moves by the offset of the progression that has it.

**Proof sketch.** By induction on the table. An entry in front of the one that has the code point
ends before that one starts, so it cannot have the code point. -/
lemma shift_eq_of_mem (htable : table.Pairwise Precedes) {e : Run × Int} (he : e ∈ table)
    (hn : e.1.has n = true) : shift table n = ((n : Int) + e.2).toNat := by
  have hfind : table.find? (·.1.has n) = some e := by
    induction table with
    | nil => cases he
    | cons f rest ih =>
      obtain ⟨hfirst, hrest⟩ := List.pairwise_cons.1 htable
      rcases List.mem_cons.1 he with rfl | he
      · simp [hn]
      · have hf : f.1.has n = false := by
          rw [Bool.eq_false_iff]
          intro hf
          obtain ⟨-, hlt⟩ := hfirst e he
          have hrange := Run.has_iff.1 hn
          have hrange' := Run.has_iff.1 hf
          omega
        simpa [hf] using ih hrest he
  rw [shift, hfind]

/-- Code points below `U+0080` in a table that starts with the capital letters from `A` to `Z` and has
no others of them.

**Proof sketch.** The first entry of the table has exactly the capital letters, and all others start
beyond the code points in question. -/
lemma shift_of_lt (hhead : table.head? = some (⟨65, 90, 1⟩, 32))
    (htail : ∀ e ∈ table.tail, 128 ≤ e.1.first) (hn : n < 128) :
    shift table n = if 65 ≤ n ∧ n ≤ 90 then n + 32 else n := by
  obtain ⟨rest, rfl⟩ : ∃ rest, table = (⟨65, 90, 1⟩, 32) :: rest :=
    ⟨table.tail, (List.cons_head?_tail hhead).symm⟩
  have hrest : ∀ e ∈ rest, e.1.has n = false := by
    intro e he
    rw [Bool.eq_false_iff]
    intro hhas
    have hfirst := htail e he
    have hrange := Run.has_iff.1 hhas
    omega
  by_cases hcapital : 65 ≤ n ∧ n ≤ 90
  · have hhas : Run.has ⟨65, 90, 1⟩ n = true :=
      Run.has_iff.2 ⟨hcapital.1, hcapital.2, Nat.mod_one _⟩
    rw [shift, List.find?_cons_of_pos (by exact hhas), if_pos hcapital]
    rfl
  · have hhas : Run.has ⟨65, 90, 1⟩ n = false := by
      rw [Bool.eq_false_iff]
      intro hhas
      exact hcapital ⟨(Run.has_iff.1 hhas).1, (Run.has_iff.1 hhas).2.1⟩
    rw [if_neg hcapital]
    refine shift_eq_self fun e he => ?_
    rcases List.mem_cons.1 he with rfl | he
    · exact hhas
    · exact hrest e he

end

/-! ## The tables of lower case and folding -/

/-- The letter `İ`, whose lower case is `i`, but which folds to itself. -/
def dotted : Run × Int := (⟨304, 304, 1⟩, -199)

/-- The letters of the Cherokee script, which fold to capitals. -/
def cherokee : List (Run × Int) := [(⟨5024, 5103, 1⟩, 38864), (⟨5104, 5109, 1⟩, 8)]

/-- The progressions of lower case apart from these exceptions. -/
def regular : List (Run × Int) := lowerShifts.filter fun e => e ∉ dotted :: cherokee

/-- The progressions of folding follow one another. -/
lemma pairwise_foldShifts : foldShifts.Pairwise Precedes := by
  have hchain : foldShifts.IsChain Precedes := by decide +kernel
  exact hchain.pairwise

/-- A regular letter folds to its lower case. -/
lemma regular_sublist_foldShifts : regular.Sublist foldShifts := by decide +kernel

/-- The lower case of a regular letter folds to itself. -/
lemma moved_avoids_of_mem_regular : ∀ e ∈ regular, (e.1.moved e.2).avoids foldShifts = true := by
  decide +kernel

/-- A Cherokee capital folds to itself, and its lower case folds to it. -/
lemma avoids_of_mem_cherokee :
    ∀ e ∈ cherokee, e.1.avoids foldShifts = true ∧ (e.1.moved e.2, -e.2) ∈ foldShifts := by
  decide +kernel

/-- Lower case leads to characters, and not to those before the letter `a`. -/
lemma moved_of_mem_lowerShifts :
    ∀ e ∈ lowerShifts, 0 ≤ (e.1.first : Int) + e.2 ∧ 96 < (e.1.moved e.2).first ∧
      ((e.1.moved e.2).last < 0xD800 ∨
        0xDFFF < (e.1.moved e.2).first ∧ (e.1.moved e.2).last < 0x110000) := by
  decide +kernel

/-- A code point stays where it is, or becomes that of a character from the letter `a` on. -/
lemma shift_lowerShifts_cases (n : Nat) :
    shift lowerShifts n = n ∨ 96 < shift lowerShifts n ∧ (shift lowerShifts n).isValidChar := by
  by_cases hstays : shift lowerShifts n = n
  · exact .inl hstays
  · obtain ⟨e, he, hhas, hshift⟩ := exists_shift_eq hstays
    obtain ⟨hpos, hletter, hchars⟩ := moved_of_mem_lowerShifts e he
    have hrange := Run.has_iff.1 (Run.has_moved hpos hhas)
    rw [hshift, Nat.isValidChar]
    omega

/-- Every progression of lower case is regular or an exception. -/
lemma lowerShifts_cases {e : Run × Int} (h : e ∈ lowerShifts) :
    e ∈ regular ∨ e ∈ cherokee ∨ e = dotted := by
  by_cases hexception : e ∈ dotted :: cherokee
  · rcases List.mem_cons.1 hexception with hdotted | hcherokee
    · exact .inr (.inr hdotted)
    · exact .inr (.inl hcherokee)
  · exact .inl (List.mem_filter.2 ⟨h, decide_eq_true hexception⟩)

/-- **Folding after lower case is folding**, for every code point but one.

**Proof sketch.** By cases on where the entry of the lower-case table stands. Most entries are in
the table for folding as well, and no entry of this table moves what they move to. The letters of
Cherokee are folded the other way round. The one that is left is the exception. -/
lemma shift_fold_shift_lower {n : Nat} (hn : n ≠ 304) :
    shift foldShifts (shift lowerShifts n) = shift foldShifts n := by
  by_cases hstays : shift lowerShifts n = n
  · rw [hstays]
  · obtain ⟨e, he, hhas, hshift⟩ := exists_shift_eq hstays
    have hmoved := Run.has_moved (moved_of_mem_lowerShifts e he).1 hhas
    rw [hshift]
    rcases lowerShifts_cases he with hregular | hcherokee | rfl
    · rw [shift_eq_of_mem pairwise_foldShifts (regular_sublist_foldShifts.subset hregular) hhas]
      exact shift_eq_self
        (Run.has_eq_false hmoved pairwise_foldShifts (moved_avoids_of_mem_regular e hregular))
    · obtain ⟨havoids, hmem⟩ := avoids_of_mem_cherokee e hcherokee
      rw [shift_eq_of_mem pairwise_foldShifts hmem hmoved,
        shift_eq_self (Run.has_eq_false hhas pairwise_foldShifts havoids)]
      have hpos := (moved_of_mem_lowerShifts e he).1
      have hrange := Run.has_iff.1 hhas
      omega
    · have hrange := Run.has_iff.1 hhas
      dsimp only [dotted] at hrange
      omega

/-! ## Characters -/

/-- Capitals below `U+0080`. -/
lemma isCapital_iff {c : Char} :
    ('A' ≤ c && c ≤ 'Z') = true ↔ 65 ≤ c.toNat ∧ c.toNat ≤ 90 := by
  simp only [Bool.and_eq_true, decide_eq_true_eq]
  rfl

/-- Below `U+0080` such a table says what is done without it. -/
lemma ite_ofNat_eq {table : List (Run × Int)} (hhead : table.head? = some (⟨65, 90, 1⟩, 32))
    (htail : ∀ e ∈ table.tail, 128 ≤ e.1.first) (c : Char) :
    (if c.toNat < 128 then if 'A' ≤ c && c ≤ 'Z' then Char.ofNat (c.toNat + 32) else c
      else Char.ofNat (shift table c.toNat)) = Char.ofNat (shift table c.toNat) := by
  split_ifs with hn hcapital
  · rw [shift_of_lt hhead htail hn, if_pos (isCapital_iff.1 hcapital)]
  · rw [shift_of_lt hhead htail hn, if_neg (mt isCapital_iff.2 hcapital), Char.ofNat_toNat]
  · rfl

/-- Lower case by the table, also below `U+0080`. -/
lemma toLower_eq (c : Char) : toLower c = Char.ofNat (shift lowerShifts c.toNat) :=
  ite_ofNat_eq rfl (by decide +kernel) c

/-- Folding by the table, also below `U+0080`. -/
lemma fold_eq (c : Char) : fold c = Char.ofNat (shift foldShifts c.toNat) :=
  ite_ofNat_eq rfl (by decide +kernel) c

/-- The lower case of a character has the code point that the table gives. -/
lemma toNat_toLower (c : Char) : (toLower c).toNat = shift lowerShifts c.toNat := by
  have hvalid : (shift lowerShifts c.toNat).isValidChar := by
    rcases shift_lowerShifts_cases c.toNat with hstays | ⟨-, hvalid⟩
    · rw [hstays]
      exact c.valid
    · exact hvalid
  rw [toLower_eq, Char.ofNat, dif_pos hvalid]
  rfl

/-- **A character and its lower case fold to one character**, apart from `İ`. -/
lemma fold_toLower {c : Char} (hc : c ≠ 'İ') : fold (toLower c) = fold c := by
  have hn : c.toNat ≠ 304 := fun hn => hc (Char.toNat_inj.1 hn)
  rw [fold_eq, fold_eq, toNat_toLower, shift_fold_shift_lower hn]

/-- A character before the letter `a` that is its own lower case is that of no other character. -/
lemma toLower_eq_iff_of_lt {c d : Char} (hd : d.toNat < 97) (hstays : toLower d = d) :
    toLower c = d ↔ c = d := by
  constructor
  · intro h
    have hn : shift lowerShifts c.toNat = d.toNat := by rw [← toNat_toLower, h]
    rcases shift_lowerShifts_cases c.toNat with hsame | ⟨hlt, -⟩
    · exact Char.toNat_inj.1 (hsame.symm.trans hn)
    · omega
  · rintro rfl
    exact hstays

/-- Only a dash becomes a dash. -/
lemma toLower_eq_dash_iff {c : Char} : toLower c = '-' ↔ c = '-' :=
  toLower_eq_iff_of_lt (by decide) (by decide)

/-! ## Words -/

/-- The characters between words: separators, and the dash, which is written as it is. -/
def isBreak (c : Char) : Bool := isSeparator c || c == '-'

/-- The words in what follows the character `before`, of which the first continues `word`. -/
def wordsAfter (before : Option Char) (word : List Char) : List Char → List (List Char)
  | [] => [word]
  | c :: rest =>
    if isBreak c then word :: wordsAfter (some c) [] rest
    else if startsWord before c rest.head? then word :: wordsAfter (some c) [toLower c] rest
    else wordsAfter (some c) (word ++ [toLower c]) rest

/-- The words of a name, in lower case. -/
def words (name : List Char) : List (List Char) := wordsAfter none [] name

/-- A name has a word, which may be empty. -/
lemma wordsAfter_ne_nil (before : Option Char) (word cs : List Char) :
    wordsAfter before word cs ≠ [] := by
  fun_induction wordsAfter before word cs with
  | case1 => simp
  | case2 => simp
  | case3 => simp
  | case4 _ _ _ _ _ _ ih => exact ih

/-- A dash opens no word. -/
lemma startsWord_dash (before after : Option Char) : startsWord before '-' after = false := by
  have hupper : isUpper '-' = false := by decide
  cases before <;> simp [startsWord, hupper]

/-- The conversion of one character. -/
lemma kebabAfter_cons (before : Option Char) (c : Char) (rest : List Char) :
    kebabAfter before (c :: rest) =
      if isBreak c then '-' :: kebabAfter (some c) rest
      else if startsWord before c rest.head? then '-' :: toLower c :: kebabAfter (some c) rest
      else toLower c :: kebabAfter (some c) rest := by
  rw [kebabAfter, isBreak]
  by_cases hdash : c = '-'
  · subst hdash
    have hlower : toLower '-' = '-' := toLower_eq_dash_iff.2 rfl
    simp [startsWord_dash, hlower]
  · simp [hdash]

/-- What follows a character is converted into the words in it with dashes between them.

**Proof sketch.** By induction along the division into words. A break or the start of a word puts a
dash between the word so far and the rest, and any other character joins the word. -/
lemma append_kebabAfter (before : Option Char) (word cs : List Char) :
    word ++ kebabAfter before cs = ['-'].intercalate (wordsAfter before word cs) := by
  fun_induction wordsAfter before word cs with
  | case1 before word => simp [kebabAfter]
  | case2 before word c rest hbreak ih =>
    rw [kebabAfter_cons, if_pos hbreak,
      List.intercalate_cons_of_ne_nil (wordsAfter_ne_nil _ _ _), ← ih]
    simp
  | case3 before word c rest hbreak hstarts ih =>
    rw [kebabAfter_cons, if_neg hbreak, if_pos hstarts,
      List.intercalate_cons_of_ne_nil (wordsAfter_ne_nil _ _ _), ← ih]
    simp
  | case4 before word c rest hbreak hstarts ih =>
    rw [kebabAfter_cons, if_neg hbreak, if_neg hstarts, ← ih]
    simp

/-- **Kebab case is the words of a name with dashes between them.** -/
lemma kebab_eq_intercalate (name : List Char) : kebab name = ['-'].intercalate (words name) :=
  append_kebabAfter none [] name

/-- A character inside a word is no dash. -/
lemma toLower_ne_dash {c : Char} (h : ¬isBreak c = true) : toLower c ≠ '-' := by
  rw [Ne, toLower_eq_dash_iff]
  rintro rfl
  exact h rfl

/-- There are no dashes in words.

**Proof sketch.** By the cases of the division: a word is closed, started or continued, and no
character of it becomes a dash. -/
lemma dash_notMem_wordsAfter (before : Option Char) {word : List Char} (hword : '-' ∉ word)
    (cs : List Char) : ∀ w ∈ wordsAfter before word cs, '-' ∉ w := by
  fun_induction wordsAfter before word cs with
  | case1 => simpa using hword
  | case2 before word c rest hbreak ih =>
    exact List.forall_mem_cons.2 ⟨hword, ih (by simp)⟩
  | case3 before word c rest hbreak hstarts ih =>
    exact List.forall_mem_cons.2 ⟨hword, ih (by simp [(toLower_ne_dash hbreak).symm])⟩
  | case4 before word c rest hbreak hstarts ih =>
    exact ih (by simp [hword, (toLower_ne_dash hbreak).symm])

/-- **Two names have one kebab case iff they have the same words.**

**Proof sketch.** The words hold no dashes, so splitting the kebab case at its dashes gives them
back. -/
theorem kebab_eq_iff {m n : List Char} : kebab m = kebab n ↔ words m = words n := by
  have hsplit (name : List Char) : (kebab name).splitOn '-' = words name := by
    rw [kebab_eq_intercalate]
    exact List.splitOn_intercalate '-' (dash_notMem_wordsAfter none (by simp) name)
      (wordsAfter_ne_nil none [] name)
  constructor
  · intro h
    rw [← hsplit m, h, hsplit n]
  · intro h
    rw [kebab_eq_intercalate, h, ← kebab_eq_intercalate]

/-- What follows a character is converted to lower case if the dashes are left out. -/
lemma filter_kebabAfter (before : Option Char) (cs : List Char) :
    (kebabAfter before cs).filter (· != '-') = (cs.filter (!isBreak ·)).map toLower := by
  induction cs generalizing before with
  | nil => rfl
  | cons c rest ih =>
    rw [kebabAfter_cons]
    split_ifs with hbreak hstarts
    · simp [hbreak, ih]
    · simp [hbreak, toLower_ne_dash hbreak, ih]
    · simp [hbreak, toLower_ne_dash hbreak, ih]

/-- **Without the dashes, kebab case is lower case.** -/
theorem filter_kebab (name : List Char) :
    (kebab name).filter (· != '-') = (name.filter (!isBreak ·)).map toLower :=
  filter_kebabAfter none name

/-- In a name in one piece, without the letter `İ`, kebab case changes nothing but case and dashes. -/
lemma map_fold_filter_kebab {name : List Char} (h : ∀ c ∈ name, isBreak c = false ∧ c ≠ 'İ') :
    ((kebab name).filter (· != '-')).map fold = name.map fold := by
  have hbreak : name.filter (!isBreak ·) = name :=
    List.filter_eq_self.2 fun c hc => by simp [(h c hc).1]
  rw [filter_kebab, hbreak, List.map_map]
  exact List.map_congr_left fun c hc => fold_toLower (h c hc).2

/-- **Names in one piece with one kebab case are equal up to case**, apart from the letter `İ`. -/
lemma equalFold_of_kebab_eq {m n : String} (hm : ∀ c ∈ m.toList, isBreak c = false ∧ c ≠ 'İ')
    (hn : ∀ c ∈ n.toList, isBreak c = false ∧ c ≠ 'İ') (h : kebab m.toList = kebab n.toList) :
    equalFold m n = true := by
  rw [equalFold_iff, foldText, foldText, ← map_fold_filter_kebab hm, ← map_fold_filter_kebab hn, h]

end SchemaKit.Text
