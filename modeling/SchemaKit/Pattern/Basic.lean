import SchemaKit.Text.Letter

/-!
# Text patterns

Regular expressions over characters, with assertions about the position in the text. A text matches
if some part of it does. Matching steps through the text with the set of patterns that the rest has
to match, the partial derivatives of the pattern.

## Main definitions

* `CharClass` — a set of characters.
* `Pattern` — a regular expression.
* `Pattern.accepts` — whether a pattern matches nothing at a position.
* `Pattern.derive` — what is left of a pattern after a character.
* `Pattern.occursIn` — whether some part of a text matches.
-/

namespace SchemaKit

/-- A set of characters: intervals, closed under change of case if `folded`, then complemented if
`negated`. -/
structure CharClass where
  intervals : List (Nat × Nat)
  folded : Bool
  negated : Bool
  deriving DecidableEq, Repr

namespace CharClass

/-- Whether a code point lies in an interval of the class. -/
def covers (s : CharClass) (n : Nat) : Bool :=
  s.intervals.any fun (lo, hi) => lo ≤ n && n ≤ hi

/-- Membership in the class. -/
def has (s : CharClass) (c : Char) : Bool :=
  (if s.folded then (c :: Text.caseOrbit c).any (fun d => s.covers d.toNat) else s.covers c.toNat)
    != s.negated

/-- The class of one character. -/
def single (c : Char) (folded : Bool) : CharClass := ⟨[(c.toNat, c.toNat)], folded, false⟩

/-- Every character. -/
def any : CharClass := ⟨[], false, true⟩

/-- Every character but the line feed. -/
def anyInLine : CharClass := ⟨[(10, 10)], false, true⟩

end CharClass

/-- The characters next to a position, none at an end of the text. -/
structure Position where
  before : Option Char
  after : Option Char

/-- Letters, digits and the underscore make up words. -/
def isWordChar (c : Char) : Bool :=
  ('a' ≤ c && c ≤ 'z') || ('A' ≤ c && c ≤ 'Z') || ('0' ≤ c && c ≤ '9') || c == '_'

/-- A word starts or ends at the position. -/
def Position.isWordEdge (p : Position) : Bool := p.before.any isWordChar != p.after.any isWordChar

/-- A regular expression. -/
inductive Pattern where
  | nothing
  | empty
  | chars (s : CharClass)
  | seq (p q : Pattern)
  | alt (p q : Pattern)
  | star (p : Pattern)
  | textStart
  | textEnd
  | lineStart
  | lineEnd
  | wordEdge (inside : Bool)
  deriving DecidableEq, Repr

namespace Pattern

/-- Whether a pattern matches the empty text at a position. -/
def accepts (at_ : Position) : Pattern → Bool
  | nothing => false
  | empty => true
  | chars _ => false
  | seq p q => p.accepts at_ && q.accepts at_
  | alt p q => p.accepts at_ || q.accepts at_
  | star _ => true
  | textStart => at_.before.isNone
  | textEnd => at_.after.isNone
  | lineStart => at_.before.isNone || at_.before == some '\n'
  | lineEnd => at_.after.isNone || at_.after == some '\n'
  | wordEdge inside => at_.isWordEdge != inside

/-- `p` followed by `q`, without an empty first part. -/
def andThen (p q : Pattern) : Pattern := if p = empty then q else seq p q

/-- What is left to match after the character `c` at a position, as alternatives. -/
def derive (at_ : Position) (c : Char) : Pattern → List Pattern
  | chars s => if s.has c then [empty] else []
  | seq p q =>
    (p.derive at_ c).map (·.andThen q) ++ (if p.accepts at_ then q.derive at_ c else [])
  | alt p q => p.derive at_ c ++ q.derive at_ c
  | star p => (p.derive at_ c).map (·.andThen (star p))
  | _ => []

/-- Whether one of the patterns `live` matches a prefix of the text, or `p` matches a part of it. -/
def search (p : Pattern) (live : List Pattern) (before : Option Char) : List Char → Bool
  | [] => (p :: live).any (accepts ⟨before, none⟩)
  | c :: rest =>
    let here : Position := ⟨before, some c⟩
    let now := (p :: live).eraseDups
    now.any (accepts here) || search p (now.flatMap (derive here c)) (some c) rest

/-- Whether some part of a text matches the pattern. -/
def occursIn (p : Pattern) (text : List Char) : Bool := p.search [] none text

/-- One after the other. -/
def sequence : List Pattern → Pattern
  | [] => empty
  | [p] => p
  | p :: rest => seq p (sequence rest)

/-- One of several. -/
def choice : List Pattern → Pattern
  | [] => nothing
  | [p] => p
  | p :: rest => alt p (choice rest)

/-- `n` times in a row. -/
def times : Nat → Pattern → Pattern
  | 0, _ => empty
  | 1, p => p
  | n + 1, p => seq p (times n p)

/-- At most `n` times in a row. -/
def upTo : Nat → Pattern → Pattern
  | 0, _ => empty
  | n + 1, p => alt empty (seq p (upTo n p))

/-- From `least` times on, up to `most` times if there is a bound. -/
def between (p : Pattern) (least : Nat) (most : Option Nat) : Pattern :=
  match most with
  | none => if least = 0 then star p else seq (times least p) (star p)
  | some m => if least = m then times least p else seq (times least p) (upTo (m - least) p)

end Pattern

end SchemaKit
