/-!
# Differences between texts

A difference is a row of chunks: text that both sides have, text that only the old side has, and text
that only the new side has.

## Main definitions

* `Action`, `Chunk` — a piece of text and which side has it.
* `commonStart`, `commonEnd` — how many symbols two texts share at an end.
* `indexOf?` — where one text occurs in another one.
-/

namespace SchemaKit.Diff

/-- Which side a chunk belongs to. -/
inductive Action where
  | keep
  | delete
  | insert
  deriving DecidableEq, Repr

/-- A piece of text, in characters or in bytes, and which side has it. -/
structure Chunk (α : Type) where
  action : Action
  text : List α
  deriving DecidableEq, Repr

variable {α : Type}

/-- Whether both sides have a chunk. -/
def Chunk.isKept (c : Chunk α) : Bool := c.action = .keep

variable [DecidableEq α]

/-- How many symbols two texts share at their start. -/
def commonStart : List α → List α → Nat
  | a :: as, b :: bs => if a = b then commonStart as bs + 1 else 0
  | _, _ => 0

/-- How many symbols two texts share at their end. -/
def commonEnd (as bs : List α) : Nat := commonStart as.reverse bs.reverse

/-- The last `n` symbols of a text. -/
def takeEnd (n : Nat) (s : List α) : List α := s.drop (s.length - n)

/-- A text without its last `n` symbols. -/
def dropEnd (n : Nat) (s : List α) : List α := s.take (s.length - n)

/-- Where a text occurs first in another one. -/
def indexOf? (part : List α) : List α → Option Nat
  | [] => if part.isEmpty then some 0 else none
  | a :: as =>
    if part.isPrefixOf (a :: as) then some 0 else (indexOf? part as).map (· + 1)

end SchemaKit.Diff
