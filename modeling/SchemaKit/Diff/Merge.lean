import SchemaKit.Diff.Basic

/-!
# Merging chunks

Chunks of a difference are brought into a plain form: between two kept chunks stands at most one deletion
and one insertion, what those share at their ends is kept, and a single edit that can be shifted over a
whole kept chunk is shifted.

## Main definitions

* `Pending` — the edits since the last kept chunk.
* `gather` — joins edits between kept chunks.
* `shift` — shifts single edits over kept chunks.
* `merge` — both, until nothing changes.
-/

namespace SchemaKit.Diff

variable {α : Type}

/-- The edits since the last kept chunk: how many of each kind there were, and their texts. -/
structure Pending (α : Type) where
  deletes : Nat
  inserts : Nat
  deleted : List α
  inserted : List α

namespace Pending

/-- No edits. -/
def none : Pending α := ⟨0, 0, [], []⟩

/-- One more edit. -/
def add (p : Pending α) (c : Chunk α) : Pending α :=
  match c.action with
  | .delete => { p with deletes := p.deletes + 1, deleted := p.deleted ++ c.text }
  | .insert => { p with inserts := p.inserts + 1, inserted := p.inserted ++ c.text }
  | .keep => p

/-- The edits as chunks, the last one first. -/
def chunks (p : Pending α) : List (Chunk α) :=
  (if p.inserts = 0 then [] else [⟨.insert, p.inserted⟩]) ++
    (if p.deletes = 0 then [] else [⟨.delete, p.deleted⟩])

end Pending

/-- Appends kept text to the last chunk, or as a chunk of its own. The chunks stand in reverse order. -/
def keepLast (text : List α) : List (Chunk α) → List (Chunk α)
  | ⟨.keep, before⟩ :: done => ⟨.keep, before ++ text⟩ :: done
  | done => ⟨.keep, text⟩ :: done

variable [DecidableEq α]

/-- Puts edits and a kept chunk behind the chunks that are done, which stand in reverse order. Of several
edits, what both kinds share at an end is kept. -/
def close (done : List (Chunk α)) (p : Pending α) (kept : List α) : List (Chunk α) :=
  if p.deletes + p.inserts > 1 then
    if p.deletes = 0 || p.inserts = 0 then ⟨.keep, kept⟩ :: (p.chunks ++ done)
    else
      let start := commonStart p.inserted p.deleted
      let done := if start = 0 then done else keepLast (p.inserted.take start) done
      let inserted := p.inserted.drop start
      let deleted := p.deleted.drop start
      let stop := commonEnd inserted deleted
      let kept := takeEnd stop inserted ++ kept
      ⟨.keep, kept⟩ :: ⟨.insert, dropEnd stop inserted⟩ :: ⟨.delete, dropEnd stop deleted⟩ :: done
  else if p.deletes + p.inserts = 1 then ⟨.keep, kept⟩ :: (p.chunks ++ done)
  else keepLast kept done

/-- Joins the edits between kept chunks. The chunks that are done stand in reverse order. -/
def gatherFrom (done : List (Chunk α)) (p : Pending α) : List (Chunk α) → List (Chunk α)
  | [] =>
    match close done p [] with
    | ⟨_, []⟩ :: rest => rest.reverse
    | all => all.reverse
  | c :: rest =>
    if c.isKept then gatherFrom (close done p c.text) .none rest else gatherFrom done (p.add c) rest

/-- Joins the edits between kept chunks. -/
def gather (chunks : List (Chunk α)) : List (Chunk α) := gatherFrom [] .none chunks

/-- Shifts single edits over a kept chunk before or behind them; says whether any was shifted. -/
def shiftFrom (before : Chunk α) : List (Chunk α) → List (Chunk α) × Bool
  | edit :: behind :: rest =>
    let next (c : Chunk α) (r : List (Chunk α) × Bool) : List (Chunk α) × Bool := (c :: r.1, r.2)
    let shifted (c : Chunk α) (r : List (Chunk α) × Bool) : List (Chunk α) × Bool :=
      (c :: r.1, true)
    if before.isKept && behind.isKept then
      if before.text.isSuffixOf edit.text then
        shifted ⟨edit.action, before.text ++ dropEnd before.text.length edit.text⟩
          (shiftFrom ⟨behind.action, before.text ++ behind.text⟩ rest)
      else if behind.text.isPrefixOf edit.text then
        shifted ⟨before.action, before.text ++ behind.text⟩
          (shiftFrom ⟨edit.action, edit.text.drop behind.text.length ++ behind.text⟩ rest)
      else next before (shiftFrom edit (behind :: rest))
    else next before (shiftFrom edit (behind :: rest))
  | rest => (before :: rest, false)

/-- Shifts single edits over kept chunks. -/
def shift : List (Chunk α) → List (Chunk α) × Bool
  | [] => ([], false)
  | c :: rest => shiftFrom c rest

/-- Joins and shifts at most `fuel` times. -/
def mergeAtMost : (fuel : Nat) → List (Chunk α) → List (Chunk α)
  | 0, chunks => chunks
  | fuel + 1, chunks =>
    let (chunks, changed) := shift (gather chunks)
    if changed then mergeAtMost fuel chunks else chunks

/-- Joins and shifts until nothing changes. Each shift moves text past a kept chunk, so as many rounds
as there are symbols are enough. -/
def merge (chunks : List (Chunk α)) : List (Chunk α) :=
  mergeAtMost (chunks.foldl (fun n c => n + c.text.length + 1) 1) chunks

end SchemaKit.Diff
