/-!
# Where two texts meet

The shortest way to turn one text into another one is searched from both ends at once. On each diagonal
of the grid of positions the search keeps the furthest point it can reach with a number of edits; where
the two searches overlap the texts can be split.

## Main definitions

* `Grid` — the two texts.
* `Frontier` — the furthest points on all diagonals.
* `Grid.sweep` — one more edit in one direction.
* `Grid.meeting?` — where the two searches overlap.
-/

namespace SchemaKit.Diff

/-- Two texts, seen from one of their ends. -/
structure Grid where
  old : Array Char
  new : Array Char

namespace Grid

/-- The same texts from the other end. -/
def reversed (g : Grid) : Grid := ⟨g.old.reverse, g.new.reverse⟩

/-- How many edits each direction needs at most. -/
def bound (g : Grid) : Nat := (g.old.size + g.new.size + 1) / 2

/-- The difference of the lengths. -/
def delta (g : Grid) : Int := g.old.size - g.new.size

end Grid

/-- The furthest points in the old text, by diagonal: diagonal `k` is kept at index `offset + k`, and a
diagonal that is not reached has -1. Diagonals that have left the grid are cut off below and above. -/
structure Frontier where
  offset : Nat
  reach : Array Int
  below : Nat
  above : Nat

namespace Frontier

/-- The frontier before the first edit. -/
def start (bound : Nat) : Frontier :=
  ⟨bound, (Array.replicate (2 * bound) (-1)).set! (bound + 1) 0, 0, 0⟩

/-- The furthest point on a diagonal. -/
def get (f : Frontier) (k : Int) : Int :=
  let i := f.offset + k
  if i < 0 then -1 else f.reach.getD i.toNat (-1)

/-- Notes the furthest point on a diagonal. -/
def set (f : Frontier) (k x : Int) : Frontier :=
  let reach := f.reach.set! (f.offset + k).toNat x
  { f with reach }

end Frontier

namespace Grid

/-- Follows a diagonal as long as the texts agree. -/
def slide (g : Grid) : (fuel : Nat) → (x y : Nat) → Nat × Nat
  | 0, x, y => (x, y)
  | fuel + 1, x, y =>
    if x < g.old.size && y < g.new.size && g.old[x]? = g.new[y]? then g.slide fuel (x + 1) (y + 1)
    else (x, y)

/-- The furthest point on a diagonal after one more edit. -/
def furthest (g : Grid) (f : Frontier) (d k : Int) : Int × Int :=
  let x := if k = -d || (k ≠ d && f.get (k - 1) < f.get (k + 1)) then f.get (k + 1)
    else f.get (k - 1) + 1
  let y := x - k
  if x < 0 || y < 0 then (x, y)
  else
    let (x', y') := g.slide g.old.size x.toNat y.toNat
    (x', y')

/-- Where the other direction has got to on a diagonal, seen from this one: the point in the old text,
if the other direction has reached the diagonal. -/
def opposite? (g : Grid) (other : Frontier) (k : Int) : Option Int :=
  let x := other.get (g.delta - k)
  if x = -1 then none else some (g.old.size - x)

/-- Advances all diagonals by one edit, from diagonal `k` on. If `meets`, stops with the diagonal and the
point where the other direction is met. -/
def sweep (g : Grid) (other : Frontier) (meets : Bool) (d : Int) :
    (fuel : Nat) → (k : Int) → Frontier → Frontier × Option (Int × Int)
  | 0, _, f => (f, none)
  | fuel + 1, k, f =>
    if k > d - f.above then (f, none)
    else
      let (x, y) := g.furthest f d k
      let f := f.set k x
      if x > g.old.size then
        let above := f.above + 2
        g.sweep other meets d fuel (k + 2) { f with above }
      else if y > g.new.size then
        let below := f.below + 2
        g.sweep other meets d fuel (k + 2) { f with below }
      else
        match if meets then g.opposite? other k else none with
        | some limit =>
          if x ≥ limit then (f, some (k, x)) else g.sweep other meets d fuel (k + 2) f
        | none => g.sweep other meets d fuel (k + 2) f

/-- Advances both directions until they overlap. The direction that can meet the other one depends on the
parity of the difference of the lengths. -/
def search (g back : Grid) : (fuel : Nat) → (d : Nat) → (ahead behind : Frontier) →
    Option (Nat × Nat)
  | 0, _, _, _ => none
  | fuel + 1, d, ahead, behind =>
    let odd := g.delta % 2 ≠ 0
    let (ahead, hit) := g.sweep behind odd d (2 * d + 1) (-d + ahead.below) ahead
    match hit with
    | some (k, x) => some (x.toNat, (x - k).toNat)
    | none =>
      let (behind, hit) := back.sweep ahead (!odd) d (2 * d + 1) (-d + behind.below) behind
      match hit with
      | some (k, _) =>
        let x := ahead.get (g.delta - k)
        some (x.toNat, (x - (g.delta - k)).toNat)
      | none => g.search back fuel (d + 1) ahead behind

/-- Where the searches from both ends overlap: a position in each text. -/
def meeting? (g : Grid) : Option (Nat × Nat) :=
  let start := Frontier.start g.bound
  g.search g.reversed g.bound 0 start start

end Grid

end SchemaKit.Diff
