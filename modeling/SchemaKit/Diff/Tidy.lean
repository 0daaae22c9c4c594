import SchemaKit.Diff.Merge
import SchemaKit.Text.Utf8

/-!
# Tidying differences

A difference is made easier to read: short kept chunks between larger edits are given up, single edits
are moved to natural borders, and a deletion and an insertion that overlap keep what they share.

## Main definitions

* `absorb` — gives up short kept chunks.
* `score` — how natural a border is.
* `settle` — moves single edits to natural borders.
* `interlock` — keeps what a deletion and an insertion share where they meet.
* `tidy` — all of it.

## Design

Borders and overlaps are found on the bytes of the texts.
-/

namespace SchemaKit.Diff

/-! ## Short kept chunks -/

/-- How much was inserted and deleted since a kept chunk, the larger of the two being the size of the
edit. -/
structure Volume where
  inserted : Nat
  deleted : Nat

namespace Volume

/-- Nothing. -/
def zero : Volume := ⟨0, 0⟩

/-- One more edit. -/
def add (v : Volume) (c : Chunk Char) : Volume :=
  if c.action = .insert then ⟨v.inserted + c.text.length, v.deleted⟩
  else ⟨v.inserted, v.deleted + c.text.length⟩

/-- The size of the edit. -/
def size (v : Volume) : Nat := max v.inserted v.deleted

end Volume

/-- Splits chunks, which stand in reverse order, behind the second kept chunk from the end: the rest is
to be looked at again. -/
def rewind (done : List (Chunk Char)) : List (Chunk Char) × List (Chunk Char) :=
  let notKept (c : Chunk Char) : Bool := !c.isKept
  let first := done.takeWhile notKept
  match done.dropWhile notKept with
  | [] => ([], done.reverse)
  | c :: rest =>
    let second := rest.takeWhile notKept
    (rest.dropWhile notKept, second.reverse ++ c :: first.reverse)

/-- The place of a walk over chunks: the chunks that are done in reverse order, the chunks to come, the
last kept text, and the volumes of the edits before and behind it. -/
structure Walk where
  done : List (Chunk Char)
  todo : List (Chunk Char)
  last : List Char
  before : Volume
  behind : Volume

namespace Walk

/-- Gives up the last kept chunk: it becomes a deletion and an insertion, and the walk starts again two
kept chunks earlier. -/
def giveUp (w : Walk) (current : Chunk Char) (rest : List (Chunk Char)) : Walk :=
  let notKept (c : Chunk Char) : Bool := !c.isKept
  let edits := (w.done.takeWhile notKept).reverse
  let earlier := (w.done.dropWhile notKept).tail
  let (done, again) := rewind earlier
  ⟨done, again ++ ⟨.delete, w.last⟩ :: ⟨.insert, w.last⟩ :: edits ++ current :: rest, [], .zero,
    .zero⟩

/-- One step; also says whether a kept chunk was given up. There is no step behind the last chunk. -/
def step (w : Walk) : Option (Walk × Bool) :=
  match w.todo with
  | [] => none
  | c :: rest =>
    if c.isKept then some (⟨c :: w.done, rest, c.text, w.behind, .zero⟩, false)
    else
      let behind := w.behind.add c
      let n := w.last.length
      if 0 < n && n ≤ w.before.size && n ≤ behind.size then some (w.giveUp c rest, true)
      else some (⟨c :: w.done, rest, w.last, w.before, behind⟩, false)

/-- At most `fuel` steps; also says whether any kept chunk was given up. -/
def run : (fuel : Nat) → Walk → Bool → List (Chunk Char) × Bool
  | 0, w, changed => (w.done.reverse ++ w.todo, changed)
  | fuel + 1, w, changed =>
    match w.step with
    | none => (w.done.reverse, changed)
    | some (w, gaveUp) => run fuel w (changed || gaveUp)

end Walk

/-- Gives up kept chunks that are no longer than the edits on both sides. Each chunk can be given up once,
and between two times no more than all chunks are walked over. -/
def absorb (chunks : List (Chunk Char)) : List (Chunk Char) :=
  let n := 2 * chunks.length + 2
  let (chunks, changed) := Walk.run (n * n) ⟨[], chunks, [], .zero, .zero⟩ false
  if changed then merge chunks else chunks

/-! ## Borders -/

/-- Whether a character is an ASCII letter or digit. -/
def isWordChar (c : Char) : Bool := c.isAlphanum

/-- Whether a character is an ASCII blank. -/
def isBlank (c : Char) : Bool := c = ' ' || c = '\t' || c = '\n' || c = '\r' || c.toNat = 12

/-- Whether a character ends a line. -/
def isLineEnd (c : Char) : Bool := c = '\n' || c = '\r'

/-- Whether a text ends with an empty line. -/
def endsBlank (s : List UInt8) : Bool :=
  [10, 10].isSuffixOf s || [10, 13, 10].isSuffixOf s

/-- The last character of a text; a stray byte counts as a replacement character. -/
def lastChar? (s : List UInt8) : Option Char := (Text.decode s).getLast?

/-- The first character of a text, with the number of its bytes. -/
def firstChar? : List UInt8 → Option (Char × Nat)
  | [] => none
  | a :: rest =>
    match Text.charAt? a rest with
    | some (c, n) => some (c, n + 1)
    | none => some (Text.replacement, 1)

/-- How natural the border between two texts is, from zero, inside a word, to six, at an end. -/
def score (one two : List UInt8) : Nat :=
  match lastChar? one, firstChar? two with
  | some c, some (d, _) =>
    if (isLineEnd c && endsBlank one) || (isLineEnd d && endsBlank two) then 5
    else if isLineEnd c || isLineEnd d then 4
    else if !isWordChar c && !isBlank c && isBlank d then 3
    else if isBlank c || isBlank d then 2
    else if !isWordChar c || !isWordChar d then 1
    else 0
  | _, _ => 6

/-- An edit between two kept texts. -/
structure Nested where
  before : List UInt8
  edit : List UInt8
  behind : List UInt8

namespace Nested

/-- How natural both borders of the edit are. -/
def score (n : Nested) : Nat := Diff.score n.before n.edit + Diff.score n.edit n.behind

/-- Moves the edit to the left, by as many bytes as it shares characters with the text before it, at
their ends. -/
def leftmost (n : Nested) : Nested :=
  let count := commonEnd (Text.decode n.before) (Text.decode n.edit)
  let common := takeEnd count n.edit
  ⟨dropEnd count n.before, common ++ dropEnd count n.edit, common ++ n.behind⟩

/-- Moves the edit one character to the right, if the text behind it starts as the edit does. -/
def right? (n : Nested) : Option Nested :=
  match firstChar? n.edit with
  | none => none
  | some (_, size) =>
    let c := n.edit.take size
    if c.isPrefixOf n.behind then
      some ⟨n.before ++ c, n.edit.drop size ++ c, n.behind.drop size⟩
    else none

/-- The best place to the right of an edit, within `fuel` steps; of equally good ones the last. -/
def bestRight : (fuel : Nat) → Nested → Nested → Nested
  | 0, _, best => best
  | fuel + 1, n, best =>
    match n.right? with
    | none => best
    | some n => bestRight fuel n (if best.score ≤ n.score then n else best)

/-- The best place for an edit. -/
def best (n : Nested) : Nested :=
  let start := n.leftmost
  bestRight (start.behind.length + 1) start start

end Nested

/-- A kept chunk, if it is not empty. -/
def keptBytes (s : List UInt8) : List (Chunk UInt8) := if s.isEmpty then [] else [⟨.keep, s⟩]

/-- Moves single edits to natural borders. -/
def settleFrom (before : Chunk UInt8) : List (Chunk UInt8) → List (Chunk UInt8)
  | edit :: behind :: rest =>
    if before.isKept && behind.isKept then
      let best := Nested.best ⟨before.text, edit.text, behind.text⟩
      if best.before = before.text then before :: settleFrom edit (behind :: rest)
      else
        let edit := ⟨edit.action, best.edit⟩
        if best.behind.isEmpty then keptBytes best.before ++ settleFrom edit rest
        else keptBytes best.before ++ edit :: settleFrom ⟨.keep, best.behind⟩ rest
    else before :: settleFrom edit (behind :: rest)
  | rest => before :: rest

/-- Moves single edits to natural borders. -/
def settle : List (Chunk UInt8) → List (Chunk UInt8)
  | [] => []
  | c :: rest => settleFrom c rest

/-! ## Overlaps -/

/-- How many bytes at the end of one text are those at the start of another one. -/
def overlap (one two : List UInt8) : Nat :=
  let longest := min one.length two.length
  ((List.range (longest + 1)).reverse.find? fun n => takeEnd n one == two.take n).getD 0

/-- How many characters a text has. -/
def charCount (s : List UInt8) : Nat := (Text.pieces s).length

/-- A deletion and an insertion, with what they share where they meet. It has to make up half of one of
them. -/
def interlocked (deleted inserted : List UInt8) : List (Chunk UInt8) :=
  let ahead := overlap deleted inserted
  let back := overlap inserted deleted
  let isLarge (n : Nat) : Bool := charCount deleted ≤ 2 * n || charCount inserted ≤ 2 * n
  if back ≤ ahead then
    if isLarge ahead then
      [⟨.delete, dropEnd ahead deleted⟩, ⟨.keep, inserted.take ahead⟩,
        ⟨.insert, inserted.drop ahead⟩]
    else [⟨.delete, deleted⟩, ⟨.insert, inserted⟩]
  else if isLarge back then
    [⟨.insert, dropEnd back inserted⟩, ⟨.keep, deleted.take back⟩, ⟨.delete, deleted.drop back⟩]
  else [⟨.delete, deleted⟩, ⟨.insert, inserted⟩]

/-- Keeps what deletions and insertions share where they meet. -/
def interlock : List (Chunk UInt8) → List (Chunk UInt8)
  | ⟨.delete, deleted⟩ :: ⟨.insert, inserted⟩ :: rest => interlocked deleted inserted ++ interlock rest
  | c :: rest => c :: interlock rest
  | [] => []

/-- A chunk by the bytes of its text. -/
def Chunk.bytes (c : Chunk Char) : Chunk UInt8 := ⟨c.action, (String.ofList c.text).toUTF8.toList⟩

/-- A difference made easier to read. -/
def tidy (chunks : List (Chunk Char)) : List (Chunk UInt8) :=
  interlock (settle ((absorb chunks).map Chunk.bytes))

end SchemaKit.Diff
