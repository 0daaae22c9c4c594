import SchemaKit.Diff.Meeting
import SchemaKit.Diff.Merge

/-!
# Aligning two texts

## Main definitions

* `Half` — a common part in the middle of two texts.
* `half?` — a common part that is at least half as long as the longer text.
* `align` — the difference between two texts.
-/

namespace SchemaKit.Diff

/-- A common part of two texts, with what stands before and behind it in each of them. -/
structure Half where
  before : List Char
  behind : List Char
  before' : List Char
  behind' : List Char
  common : List Char

namespace Half

/-- The same with the texts exchanged. -/
def swapped (h : Half) : Half := ⟨h.before', h.behind', h.before, h.behind, h.common⟩

/-- The common part around position `i` of a longer and position `j` of a shorter text. -/
def around (long short : List Char) (i j : Nat) : Half :=
  let stop := commonStart (long.drop i) (short.drop j)
  let start := commonEnd (long.take i) (short.take j)
  ⟨long.take (i - start), long.drop (i + stop), short.take (j - start), short.drop (j + stop),
    (short.take (j + stop)).drop (j - start)⟩

/-- All places of a text at which a part occurs. -/
def places (part : List Char) (s : List Char) : List Nat :=
  (List.range s.length).filter fun j => part.isPrefixOf (s.drop j)

/-- The longest common part that holds the quarter of the longer text at position `i`, if it is at least
half as long as that text. -/
def seeded? (long short : List Char) (i : Nat) : Option Half :=
  let seed := (long.drop i).take (long.length / 4)
  let best := (places seed short).foldl (fun (best : Half) j =>
    let h := around long short i j
    if best.common.length < h.common.length then h else best) ⟨[], [], [], [], []⟩
  if best.common.length * 2 < long.length then none else some best

/-- The longer of two common parts; of two that are equally long, the second one. -/
def longer : Option Half → Option Half → Option Half
  | some h, some h' => if h.common.length > h'.common.length then some h else some h'
  | some h, none => some h
  | none, h => h

end Half

/-- A common part that is at least half as long as the longer text, grown from the second or the third
quarter of that text. -/
def half? (old new : List Char) : Option Half :=
  let isOldLonger := old.length > new.length
  let (long, short) := if isOldLonger then (old, new) else (new, old)
  if long.length < 4 || short.length * 2 < long.length then none
  else
    let h := Half.longer (Half.seeded? long short ((long.length + 3) / 4))
      (Half.seeded? long short ((long.length + 1) / 2))
    if isOldLonger then h else h.map Half.swapped

/-- A difference as a deletion and an insertion. -/
def replaced (old new : List Char) : List (Chunk Char) := [⟨.delete, old⟩, ⟨.insert, new⟩]

/-- The difference of two texts that share nothing at their ends, where shorter texts are aligned by
`next`. -/
def alignMiddle (next : List Char → List Char → List (Chunk Char)) (old new : List Char) :
    List (Chunk Char) :=
  if old.isEmpty then [⟨.insert, new⟩]
  else if new.isEmpty then [⟨.delete, old⟩]
  else
    let isOldLonger := old.length > new.length
    let (long, short) := if isOldLonger then (old, new) else (new, old)
    let action : Action := if isOldLonger then .delete else .insert
    match indexOf? short long with
    | some i => [⟨action, long.take i⟩, ⟨.keep, short⟩, ⟨action, long.drop (i + short.length)⟩]
    | none =>
      if short.length = 1 then replaced old new
      else match half? old new with
        | some h => next h.before h.before' ++ ⟨.keep, h.common⟩ :: next h.behind h.behind'
        | none =>
          match Grid.meeting? ⟨old.toArray, new.toArray⟩ with
          | some (x, y) => next (old.take x) (new.take y) ++ next (old.drop x) (new.drop y)
          | none => replaced old new

/-- A kept chunk, if it is not empty. -/
def kept (text : List Char) : List (Chunk Char) := if text.isEmpty then [] else [⟨.keep, text⟩]

/-- Aligns two texts, splitting them at most `fuel` times. -/
def alignAtMost : (fuel : Nat) → List Char → List Char → List (Chunk Char)
  | 0, old, new => replaced old new
  | fuel + 1, old, new =>
    if old = new then kept old
    else
      let start := commonStart old new
      let old' := old.drop start
      let new' := new.drop start
      let stop := commonEnd old' new'
      merge (kept (old.take start) ++
        alignMiddle (alignAtMost fuel) (dropEnd stop old') (dropEnd stop new') ++
        kept (takeEnd stop old'))

/-- The difference between two texts. Each split leaves shorter texts, so as many splits as there are
characters are enough. -/
def align (old new : String) : List (Chunk Char) :=
  alignAtMost (old.length + new.length + 1) old.toList new.toList

end SchemaKit.Diff
