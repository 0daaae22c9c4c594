import Mathlib.Data.Bool.AllAny
import SchemaKit.Proofs.Text.Bytes
import SchemaKit.Proofs.Text.Words

/-!
# What kebab case keeps

Kebab case neither loses nor invents characters: apart from the characters between words, it is the name
in lower case. A name that is in kebab case already has no capitals left that could open a word, so a
second conversion finds nothing to do.

## Main definitions

* `SchemaKit.Text.IsSettled` — whether the lower case of a character is a lower case once and for all.

## Main results

* `SchemaKit.Text.notMem_kebab` — there are no separators in kebab case.
* `SchemaKit.Text.kebab_eq_map_toLower` — the conversion of a name without capitals and separators.
* `SchemaKit.Text.filter_kebab_decode` — kebab case without the dashes, and what it says about names
  of letters and digits.
* `SchemaKit.Text.kebab_kebab` — the conversion of a name in kebab case.
-/

namespace SchemaKit.Text

/-! ## The characters of a name in kebab case -/

/-- A character of a name in kebab case is a dash, or the lower case of one in a word of the name. -/
lemma mem_kebab {name : List Char} {d : Char} (h : d ∈ kebab name) :
    d = '-' ∨ ∃ c ∈ name, isBreak c = false ∧ toLower c = d := by
  by_cases hdash : d = '-'
  · exact .inl hdash
  · have hmem : d ∈ (kebab name).filter (· != '-') := List.mem_filter.2 ⟨h, by simpa using hdash⟩
    rw [filter_kebab] at hmem
    obtain ⟨c, hc, hlower⟩ := List.mem_map.1 hmem
    obtain ⟨hname, hbreak⟩ := List.mem_filter.1 hc
    exact .inr ⟨c, hname, by simpa using hbreak, hlower⟩

/-- **There are no separators in kebab case**: a separator becomes a dash, and is the lower case of no
other character. -/
lemma notMem_kebab {name : List Char} {d : Char} (hd : isSeparator d = true) : d ∉ kebab name := by
  intro hmem
  have hcases : d = '_' ∨ d = ' ' := by simpa [isSeparator] using hd
  have hlower {c : Char} : toLower c = d ↔ c = d := by
    rcases hcases with rfl | rfl <;> exact toLower_eq_iff_of_lt (by decide) (by decide)
  rcases mem_kebab hmem with rfl | ⟨c, -, hbreak, hc⟩
  · simp [isSeparator] at hd
  · obtain rfl := hlower.1 hc
    simp [isBreak, hd] at hbreak

/-- Letters and digits below `U+0080` stand in words, and the letter `İ` is none of them. -/
lemma isBreak_of_isAlphanum {c : Char} (h : c.isAlphanum = true) : isBreak c = false ∧ c ≠ 'İ' := by
  constructor
  · rw [Bool.eq_false_iff]
    intro hbreak
    have hcases : (c = '_' ∨ c = ' ') ∨ c = '-' := by simpa [isBreak, isSeparator] using hbreak
    rcases hcases with (rfl | rfl) | rfl <;> exact absurd h (by decide)
  · rintro rfl
    exact absurd h (by decide)

/-- **Kebab case loses and invents no characters.** Of a name, read from any bytes, it keeps all but the
separators and dashes, in lower case and in the same order, and adds nothing but dashes; in particular
there is no separator in it. So names of letters and digits below `U+0080` that have one kebab case
are equal up to case.

**Proof sketch.** Whether a dash is written does not matter once the dashes are left out. No character
but a separator itself has a separator as its lower case, and no character in a word has the dash. -/
theorem filter_kebab_decode :
    (∀ bs : List UInt8,
        (kebab (decode bs)).filter (· != '-') =
            ((decode bs).filter fun c => c != '_' && c != ' ' && c != '-').map toLower ∧
          '_' ∉ kebab (decode bs) ∧ ' ' ∉ kebab (decode bs)) ∧
      ∀ s t : String, (∀ c ∈ s.toList, c.isAlphanum = true) → (∀ c ∈ t.toList, c.isAlphanum = true) →
        kebab s.toList = kebab t.toList → equalFold s t = true := by
  refine ⟨fun bs => ⟨?_, notMem_kebab rfl, notMem_kebab rfl⟩, fun s t hs ht h => ?_⟩
  · have hbreak : (fun c : Char => !isBreak c) = fun c => c != '_' && c != ' ' && c != '-' := by
      funext c
      simp only [isBreak, isSeparator, Bool.not_or, bne]
    rw [filter_kebab, hbreak]
  · exact equalFold_of_kebab_eq (fun c hc => isBreak_of_isAlphanum (hs c hc))
      (fun c hc => isBreak_of_isAlphanum (ht c hc)) h

/-- Two spellings of one name. -/
theorem filter_kebab_decode_spellings :
    (∀ c ∈ "HTTPServer2".toList, c.isAlphanum = true) ∧
      (∀ c ∈ "HttpServer2".toList, c.isAlphanum = true) ∧
      kebab "HTTPServer2".toList = kebab "HttpServer2".toList ∧
      equalFold "HTTPServer2" "HttpServer2" = true := by
  have hs : ∀ c ∈ "HTTPServer2".toList, c.isAlphanum = true := List.all_eq_true.1 (by decide)
  have ht : ∀ c ∈ "HttpServer2".toList, c.isAlphanum = true := List.all_eq_true.1 (by decide)
  have h : kebab "HTTPServer2".toList = kebab "HttpServer2".toList := by decide
  exact ⟨hs, ht, h, filter_kebab_decode.2 _ _ hs ht h⟩

/-! ## Names in kebab case -/

/-- The lower case of the character is no capital, and its own lower case. -/
def IsSettled (c : Char) : Prop := isUpper (toLower c) = false ∧ toLower (toLower c) = toLower c

instance (c : Char) : Decidable (IsSettled c) :=
  inferInstanceAs (Decidable (isUpper (toLower c) = false ∧ toLower (toLower c) = toLower c))

/-- Only a capital opens a word. -/
lemma startsWord_of_isUpper_eq_false (before : Option Char) {c : Char} (h : isUpper c = false)
    (after : Option Char) : startsWord before c after = false := by
  cases before <;> simp [startsWord, h]

/-- What follows a character is converted to lower case if there are no capitals and no separators in
it. -/
lemma kebabAfter_eq_map_toLower (before : Option Char) {cs : List Char}
    (h : ∀ c ∈ cs, isUpper c = false ∧ isSeparator c = false) :
    kebabAfter before cs = cs.map toLower := by
  induction cs generalizing before with
  | nil => rfl
  | cons c rest ih =>
    rw [List.forall_mem_cons] at h
    obtain ⟨⟨hupper, hseparator⟩, hrest⟩ := h
    rw [kebabAfter, hseparator, startsWord_of_isUpper_eq_false before hupper, ih (some c) hrest]
    rfl

/-- **A name without capitals and separators** is in kebab case when it is in lower case. -/
lemma kebab_eq_map_toLower {name : List Char}
    (h : ∀ c ∈ name, isUpper c = false ∧ isSeparator c = false) : kebab name = name.map toLower :=
  kebabAfter_eq_map_toLower none h

/-- The characters of a name in kebab case are no capitals and no separators, and are in lower case, if
those of the name are settled. -/
lemma settled_of_mem_kebab {name : List Char} (h : ∀ c ∈ name, IsSettled c) {d : Char}
    (hd : d ∈ kebab name) :
    (isUpper d = false ∧ isSeparator d = false) ∧ toLower d = d := by
  have hseparator : isSeparator d = false := by
    rw [Bool.eq_false_iff]
    intro hseparator
    exact notMem_kebab hseparator hd
  rcases mem_kebab hd with rfl | ⟨c, hc, -, rfl⟩
  · exact ⟨⟨by decide, hseparator⟩, by decide⟩
  · exact ⟨⟨(h c hc).1, hseparator⟩, (h c hc).2⟩

/-- Characters below `U+0080` are settled. -/
lemma isSettled_of_lt {n : Nat} (hn : n < 128) : IsSettled (Char.ofNat n) := by
  have hall : ∀ n < 128, IsSettled (Char.ofNat n) := by decide +kernel
  exact hall n hn

/-- **A name in kebab case stays as it is**: if the characters of a name, read from any bytes, are
settled, then its kebab case, written as bytes and read again, is its own kebab case. Characters that
are read from bytes below `0x80` are all settled.

**Proof sketch.** In kebab case there are no separators, and no capitals, which are all that opens a
word. So the second conversion is to lower case only, and this has been done. -/
theorem kebab_kebab :
    (∀ bs : List UInt8, (∀ c ∈ decode bs, IsSettled c) →
        kebab (decode (bytes (String.ofList (kebab (decode bs))))) = kebab (decode bs)) ∧
      ∀ bs : List UInt8, (∀ b ∈ bs, b < 0x80) → ∀ c ∈ decode bs, IsSettled c := by
  constructor
  · intro bs hsettled
    rw [decode_bytes, String.toList_ofList,
      kebab_eq_map_toLower fun d hd => (settled_of_mem_kebab hsettled hd).1]
    calc (kebab (decode bs)).map toLower = (kebab (decode bs)).map id :=
          List.map_congr_left fun d hd => (settled_of_mem_kebab hsettled hd).2
      _ = kebab (decode bs) := List.map_id _
  · intro bs hbytes c hc
    rw [decode_eq_map hbytes] at hc
    obtain ⟨b, hb, rfl⟩ := List.mem_map.1 hc
    exact isSettled_of_lt (UInt8.lt_iff_toNat_lt.1 (hbytes b hb))

/-- A letter that is a capital without a lower case opens a second word after the dash before it. -/
example : kebab ['x', '𝐀', 'b'] = ['x', '-', '𝐀', 'b'] ∧
    kebab ['x', '-', '𝐀', 'b'] = ['x', '-', '-', '𝐀', 'b'] := by decide +kernel

/-- A name with letters beyond `U+007F` and a name without them.

**Proof sketch.** The characters of both names are known, and that they are settled, or below the
bound, is seen by evaluation. -/
theorem kebab_kebab_settled :
    (∀ c ∈ decode (bytes "ÖlTank_HTTPServer"), IsSettled c) ∧
      kebab (decode (bytes (String.ofList (kebab (decode (bytes "ÖlTank_HTTPServer")))))) =
        kebab (decode (bytes "ÖlTank_HTTPServer")) ∧
      (∀ b ∈ bytes "v2 Schema-List", b < 0x80) ∧
      ∀ c ∈ decode (bytes "v2 Schema-List"), IsSettled c := by
  have hsettled : ∀ c ∈ decode (bytes "ÖlTank_HTTPServer"), IsSettled c := by
    rw [decode_bytes, ← List.all_iff_forall_prop]
    decide +kernel
  have hbytes : ∀ b ∈ bytes "v2 Schema-List", b < 0x80 := by
    rw [← List.all_iff_forall_prop]
    decide +kernel
  exact ⟨hsettled, kebab_kebab.1 _ hsettled, hbytes, kebab_kebab.2 _ hbytes⟩

end SchemaKit.Text
