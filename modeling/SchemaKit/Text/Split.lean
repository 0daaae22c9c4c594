/-!
# Splitting texts

Texts are cut at single characters.

## Main definitions

* `cut` — the text before and behind the first occurrence of a character.
* `cutLast` — the text before and behind the last occurrence.
* `splitAll` — all parts between occurrences.
* `joinWith` — parts with a text between them.
* `startsWith`, `occurs` — occurrence of one text at the start of, or anywhere in, another one.
* `afterStart?` — what follows one text at the start of another one.
-/

namespace SchemaKit.Text

/-- The text before and behind the first `c`, if there is one. -/
def cut (c : Char) : List Char → Option (List Char × List Char)
  | [] => none
  | d :: rest =>
    if d = c then some ([], rest) else (cut c rest).map fun (before, behind) => (d :: before, behind)

/-- The text before and behind the last `c`, if there is one. -/
def cutLast (c : Char) : List Char → Option (List Char × List Char)
  | [] => none
  | d :: rest =>
    match cutLast c rest with
    | some (before, behind) => some (d :: before, behind)
    | none => if d = c then some ([], rest) else none

/-- The text before the first `c`, all of it if there is none. -/
def upTo (c : Char) (s : List Char) : List Char := s.takeWhile (· != c)

/-- The parts of a text between occurrences of `c`. A text without `c` is one part. -/
def splitAll (c : Char) : List Char → List (List Char)
  | [] => [[]]
  | d :: rest =>
    if d = c then [] :: splitAll c rest
    else match splitAll c rest with
      | [] => [[d]]
      | part :: more => (d :: part) :: more

/-- Parts in a row with `sep` between them. -/
def joinWith (sep : List Char) : List (List Char) → List Char
  | [] => []
  | [part] => part
  | part :: rest => part ++ sep ++ joinWith sep rest

/-- Texts in a row with `sep` between them. -/
def joined (sep : String) : List String → String
  | [] => ""
  | [part] => part
  | part :: rest => part ++ sep ++ joined sep rest

/-- Whether a text starts with another one. -/
def startsWith : (start : List Char) → List Char → Bool
  | [], _ => true
  | _ :: _, [] => false
  | c :: start, d :: rest => c == d && startsWith start rest

/-- What follows `start` at the start of a text. -/
def afterStart? : (start : List Char) → List Char → Option (List Char)
  | [], s => some s
  | _ :: _, [] => none
  | c :: start, d :: rest => if c = d then afterStart? start rest else none

/-- Something follows a start iff the text is put together from both.

**Proof sketch.** By induction on the start. Its first character has to be the first one of the
text, and the rest of the start is treated in the same way. -/
theorem afterStart?_eq_some_iff {start s rest : List Char} :
    afterStart? start s = some rest ↔ s = start ++ rest := by
  induction start generalizing s with
  | nil => cases s <;> exact Option.some_inj
  | cons c start ih =>
    cases s with
    | nil => exact ⟨nofun, nofun⟩
    | cons d s =>
      rw [afterStart?, List.cons_append, List.cons.injEq]
      split
      · next hcd => simp [hcd, ih]
      · next hcd => simp [Ne.symm hcd]

/-- What follows the start of a text that was put together. -/
theorem afterStart?_append (start rest : List Char) :
    afterStart? start (start ++ rest) = some rest :=
  afterStart?_eq_some_iff.2 rfl

/-- Whether a text occurs in another one. -/
def occurs (part : List Char) : List Char → Bool
  | [] => part.isEmpty
  | c :: rest => startsWith part (c :: rest) || occurs part rest

end SchemaKit.Text
