import SchemaKit.Proofs.Text.Bytes
import SchemaKit.Proofs.Text.Parts
import SchemaKit.Shape.Tag

/-!
# What tags say

Every text can be the value of a tag: it is put between quotes, with a backslash before the characters
that cannot stand there by themselves. A value is a name and options with commas between them.

## Main definitions

* `SchemaKit.Shape.Tag.quote` — the characters of a text as they stand between quotes.
* `SchemaKit.Shape.Tag.single` — the tag with a single entry.
* `SchemaKit.Shape.Tag.Divided` — a value as a name and options.

## Main results

* `SchemaKit.Shape.Tag.lookup?_single` — every text is the value of some tag.
* `SchemaKit.Shape.Tag.exists_divided`, `SchemaKit.Shape.Tag.Divided.unique` — every value is a name and
  options, in one way only.
* `SchemaKit.Shape.Tag.splitName_of_divided` — the name and the options that are read from a value.
-/

namespace SchemaKit.Shape.Tag

/-! ## Values -/

/-- A character between quotes. Quotes and backslashes stand behind a backslash, and a letter stands
for the end of a line. -/
def quoteChar (c : Char) : List Char :=
  if c = '"' ∨ c = '\\' then ['\\', c] else if c = '\n' then ['\\', 'n'] else [c]

/-- The characters of a text as they stand between quotes. -/
def quote (s : List Char) : List Char := s.flatMap quoteChar

/-- A quoted character is passed over as a whole. -/
lemma quoted?_quoteChar (c : Char) (rest : List Char) :
    quoted? (quoteChar c ++ rest) = (quoted? rest).map fun (q, r) => (quoteChar c ++ q, r) := by
  rw [quoteChar]
  split
  · simp [quoted?]
  · next hmark =>
    rw [not_or] at hmark
    split
    · simp [quoted?]
    · simp [quoted?, hmark]

/-- **What is quoted ends with the first quote behind it.** -/
lemma quoted?_quote (s rest : List Char) :
    quoted? (quote s ++ '"' :: rest) = some (quote s ++ ['"'], rest) := by
  induction s with
  | nil => rfl
  | cons c s ih =>
    rw [quote, List.flatMap_cons, ← quote, List.append_assoc, quoted?_quoteChar, ih,
      List.append_assoc]
    rfl

/-- The bytes of a single character. -/
lemma charBytes_eq (c : Char) : charBytes c = String.utf8EncodeChar c := by
  rw [charBytes, Text.toList_toUTF8, Text.bytes, String.toList_singleton, List.flatMap_singleton]

/-- A quoted character is read as its bytes.

**Proof sketch.** By the three ways in which a character is quoted: marks with a backslash, line
ends with a letter, and others as they are. -/
lemma unquoteBytes?_quoteChar (c : Char) (rest : List Char) :
    unquoteBytes? 0 (quoteChar c ++ rest) = (unquoteBytes? 0 rest).map (charBytes c ++ ·) := by
  rw [quoteChar]
  split
  · next hmark =>
    rcases hmark with rfl | rfl <;> rw [charBytes_eq] <;> rfl
  · next hmark =>
    rw [not_or] at hmark
    split
    · next hline =>
      subst hline
      rw [charBytes_eq]
      rfl
    · next hline =>
      rw [List.cons_append, List.nil_append, unquoteBytes?.eq_def]
      simp [hmark, hline]

/-- The bytes of a text are read back from between quotes. -/
lemma unquoteBytes?_quote (s : List Char) :
    unquoteBytes? 0 (quote s ++ ['"']) = some (s.flatMap charBytes) := by
  induction s with
  | nil => rfl
  | cons c s ih =>
    rw [quote, List.flatMap_cons, ← quote, List.append_assoc, unquoteBytes?_quoteChar, ih]
    rfl

/-- **A text is read back from between quotes.** -/
lemma unquote?_quote (s : String) : unquote? (quote s.toList ++ ['"']) = some s := by
  have hbytes : s.toList.flatMap charBytes = Text.bytes s :=
    List.flatMap_congr fun c _ => charBytes_eq c
  rw [unquote?, unquoteBytes?_quote, hbytes, Option.map_some, Text.decode_bytes,
    String.ofList_toList]

/-- The first entry of a tag that starts with a key.

**Proof sketch.** The key is what stands in front of the first character that cannot be in a key,
which is the colon, and the quoted text follows behind it. -/
lemma entry?_append {key : List Char} (hne : key ≠ []) (hkey : ∀ c ∈ key, isKeyChar c = true)
    {rest quoted behind : List Char} (h : quoted? rest = some (quoted, behind)) :
    entry? (key ++ ':' :: '"' :: rest) = some ((key, quoted), behind) := by
  obtain ⟨c, more, rfl⟩ := List.exists_cons_of_ne_nil hne
  have hstart : (c :: more ++ ':' :: '"' :: rest).dropWhile (· == ' ') =
      c :: more ++ ':' :: '"' :: rest := by
    have hblank : c ≠ ' ' := by
      rintro rfl
      exact absurd (hkey ' ' List.mem_cons_self) (by decide)
    rw [List.cons_append, List.dropWhile_cons_of_neg (by simp [hblank])]
  have htake : (c :: more ++ ':' :: '"' :: rest).takeWhile isKeyChar = c :: more := by
    rw [List.takeWhile_append_of_pos hkey, List.takeWhile_cons_of_neg (by decide), List.append_nil]
  have hdrop : (c :: more ++ ':' :: '"' :: rest).dropWhile isKeyChar = ':' :: '"' :: rest := by
    rw [List.dropWhile_append_of_pos hkey, List.dropWhile_cons_of_neg (by decide)]
  unfold entry?
  simp only [hstart, htake, hdrop, h, Option.map_some]

/-- The tag with a single entry. -/
def single (key value : String) : String :=
  String.ofList (key.toList ++ ':' :: '"' :: (quote value.toList ++ ['"']))

/-- **Every text is the value of some tag.**

**Proof sketch.** The tag is one entry, whose value is read back by `unquote?_quote`. -/
theorem lookup?_single {key : String} (hne : key ≠ "")
    (hkey : ∀ c ∈ key.toList, isKeyChar c = true) (value : String) :
    lookup? key (single key value) = some value := by
  have hchars : key.toList ≠ [] := mt String.toList_eq_nil_iff.1 hne
  obtain ⟨n, hlength⟩ : ∃ n, (single key value).length = n + 1 :=
    Nat.exists_eq_succ_of_ne_zero (by simp [single])
  rw [lookup?, hlength, single, String.toList_ofList, lookupIn?,
    entry?_append hchars hkey (quoted?_quote value.toList [])]
  dsimp only
  rw [if_pos rfl, unquote?_quote]

/-! ## Names and options -/

/-- A value as a name and options: between each two of them stands a comma, and nowhere else. -/
structure Divided (value name : String) (options : List String) : Prop where
  eq : value = ",".intercalate (name :: options)
  commaless : ∀ part ∈ name :: options, ',' ∉ part.toList

/-- **Every value is a name and options.**

**Proof sketch.** The value is split at its commas, and joined again it is the value. -/
theorem exists_divided (value : String) : ∃ name options, Divided value name options := by
  obtain ⟨name, options, hparts⟩ :=
    List.exists_cons_of_ne_nil (List.splitOn_ne_nil ',' value.toList)
  refine ⟨String.ofList name, options.map String.ofList, ?_, ?_⟩
  · rw [← List.map_cons, ← hparts, ← String.toList_inj, String.toList_intercalate, List.map_map]
    simp [List.intercalate_splitOn]
  · rw [← List.map_cons, ← hparts]
    intro part hpart
    obtain ⟨chars, hchars, rfl⟩ := List.mem_map.1 hpart
    rw [String.toList_ofList]
    exact Text.notMem_of_mem_splitOn hchars

/-- A value is split into its name and its options. -/
lemma splitOn_intercalate {parts : List String} (hne : parts ≠ [])
    (h : ∀ part ∈ parts, ',' ∉ part.toList) :
    (",".intercalate parts).toList.splitOn ',' = parts.map String.toList := by
  rw [String.toList_intercalate]
  exact List.splitOn_intercalate ',' (by simpa using h) (by simpa using hne)

/-- **A value is a name and options in one way only.** -/
theorem Divided.unique {value name name' : String} {options options' : List String}
    (h : Divided value name options) (h' : Divided value name' options') :
    name = name' ∧ options = options' := by
  have hparts : (name :: options).map String.toList = (name' :: options').map String.toList := by
    rw [← splitOn_intercalate (List.cons_ne_nil _ _) h.commaless, ← h.eq, h'.eq,
      splitOn_intercalate (List.cons_ne_nil _ _) h'.commaless]
  exact List.cons.inj ((List.map_injective_iff.2 fun _ _ => String.toList_inj.1) hparts)

/-- **The name and the options that are read from a value.** Where there are no options, an empty one
is read.

**Proof sketch.** By cases on the options. Without any, there is no comma in the value. Otherwise
the name ends at the first comma, and the options are what stands between the others. -/
theorem splitName_of_divided {value name : String} {options : List String}
    (h : Divided value name options) :
    splitName value = (name, if options = [] then [""] else options) := by
  obtain ⟨rfl, hcommaless⟩ := h
  obtain ⟨hname, hoptions⟩ := List.forall_mem_cons.1 hcommaless
  cases options with
  | nil => rw [String.intercalate_singleton, splitName, Text.cut_eq_none hname, if_pos rfl]
  | cons option more =>
    have hvalue : (",".intercalate (name :: option :: more)).toList =
        name.toList ++ ',' :: (",".intercalate (option :: more)).toList := by
      rw [String.intercalate_cons_cons, String.toList_append, String.toList_append,
        List.append_assoc]
      rfl
    rw [splitName, hvalue, Text.cut_append_cons hname, if_neg (List.cons_ne_nil _ _)]
    dsimp only
    rw [Text.splitAll_eq_splitOn, splitOn_intercalate (List.cons_ne_nil _ _) hoptions,
      List.map_map, String.ofList_toList]
    simp

end SchemaKit.Shape.Tag
