import SchemaKit.Format.Address

/-!
# Mailboxes

A mailbox is an address `local@domain`, or a display name with an address in angle brackets.
Comments in parentheses may follow. A group of exactly one mailbox is also taken for it.

## Main definitions

* `addressAt?` — an address at the start of a text.
* `isMailbox` — whether a text is one mailbox.
-/

namespace SchemaKit.Format

/-- Visible characters. -/
def isVisible (c : Char) : Bool := ('!' ≤ c && c ≤ '~') || 128 ≤ c.toNat

/-- Space or tab. -/
def isInlineBlank (c : Char) : Bool := c == ' ' || c == '\t'

/-- Characters of atoms, the point included. -/
def isAtomChar (c : Char) : Bool := isVisible c && !"()<>[]:;@\\,\"".toList.contains c

/-- Drops blanks at the start. -/
def skipBlanks (s : List Char) : List Char := s.dropWhile isInlineBlank

/-- What follows a quoted string whose opening quote has been read, and whether it was empty. -/
def quotedTail? : (escaped isEmpty : Bool) → List Char → Option (Bool × List Char)
  | _, _, [] => none
  | true, _, c :: rest =>
    if isVisible c || isInlineBlank c then quotedTail? false false rest else none
  | false, isEmpty, c :: rest =>
    if c == '"' then some (isEmpty, rest)
    else if c == '\\' then quotedTail? true isEmpty rest
    else if isVisible c || isInlineBlank c then quotedTail? false false rest
    else none

/-- Whether a text has two points in a row. -/
def hasDoublePoint : List Char → Bool
  | '.' :: '.' :: _ => true
  | _ :: rest => hasDoublePoint rest
  | [] => false

/-- An atom with single points inside, and what follows. -/
def strictAtom? (s : List Char) : Option (List Char) :=
  let atom := s.takeWhile isAtomChar
  if atom.isEmpty || atom.head? == some '.' || atom.getLast? == some '.' || hasDoublePoint atom
  then none else some (s.dropWhile isAtomChar)

/-- An atom with any points, and what follows. -/
def looseAtom? (s : List Char) : Option (List Char) :=
  if (s.takeWhile isAtomChar).isEmpty then none else some (s.dropWhile isAtomChar)

/-- A domain in brackets is a network address. -/
def bracketed? (s : List Char) : Option (List Char) :=
  match Text.cut ']' s with
  | some (inside, rest) =>
    if inside.all (fun c => isVisible c && c != '[' && c != '\\') && isAddress inside &&
        !inside.contains '%' then some rest
    else none
  | none => none

/-- An address `local@domain` at the start of a text, and what follows. -/
def addressAt? (s : List Char) : Option (List Char) := do
  let afterLocal ← match skipBlanks s with
    | '"' :: rest =>
      match quotedTail? false true rest with
      | some (false, rest) => some rest
      | _ => none
    | s => strictAtom? s
  match afterLocal with
  | '@' :: rest =>
    match skipBlanks rest with
    | '[' :: inside => bracketed? inside
    | domain => strictAtom? domain
  | _ => none

/-- What follows a comment of which `depth` parentheses are open. -/
def commentTail? : (depth : Nat) → List Char → Option (List Char)
  | 0, s => some s
  | _ + 1, [] => none
  | depth + 1, '\\' :: _ :: rest => commentTail? (depth + 1) rest
  | depth + 1, '(' :: rest => commentTail? (depth + 2) rest
  | depth + 1, ')' :: rest => commentTail? depth rest
  | depth + 1, _ :: rest => commentTail? (depth + 1) rest

/-- Skips blanks and comments, up to `fuel` comments. -/
def skipCommentsWithin : (fuel : Nat) → List Char → Option (List Char)
  | 0, s => some (skipBlanks s)
  | fuel + 1, s =>
    match skipBlanks s with
    | '(' :: rest => (commentTail? 1 rest).bind (skipCommentsWithin fuel)
    | s => some s

/-- Skips blanks and comments. -/
def skipComments (s : List Char) : Option (List Char) := skipCommentsWithin s.length s

/-- A display name: one or more words. -/
def phraseWithin : (fuel : Nat) → (any : Bool) → List Char → Option (List Char)
  | 0, any, s => if any then some s else none
  | fuel + 1, any, s => do
    let s ← if any then skipComments s else some s
    let s := skipBlanks s
    let next := match s with
      | '"' :: rest => (quotedTail? false true rest).map (·.2)
      | s => looseAtom? s
    match next with
    | some rest => phraseWithin fuel true rest
    | none => if any || s.isEmpty then some s else none

/-- What follows one mailbox that is no group. -/
def plainAt? (s : List Char) : Option (List Char) :=
  match addressAt? s with
  | some rest =>
    match skipBlanks rest with
    | '(' :: comment => commentTail? 1 comment
    | rest => some rest
  | none => do
    let s ← if s.head? == some '<' then some s else phraseWithin s.length false s
    match skipBlanks s with
    | '<' :: rest =>
      match addressAt? rest with
      | some ('>' :: rest) => some rest
      | _ => none
    | _ => none

/-- A group with one member: what follows its name and colon. -/
def groupOfOne? (s : List Char) : Option (List Char) := do
  let s := skipBlanks s
  if s.isEmpty then none
  else
    let s ← plainAt? s
    match ← skipComments s with
    | ';' :: rest => skipComments rest
    | _ => none

/-- What follows one mailbox, or a group of one. -/
def mailboxAt? (s : List Char) : Option (List Char) :=
  match addressAt? s with
  | some _ => plainAt? s
  | none =>
    let afterName := if s.head? == some '<' then some s else phraseWithin s.length false s
    match afterName.map skipBlanks with
    | some (':' :: rest) => groupOfOne? rest
    | _ => plainAt? s

/-- Whether a text is one mailbox. -/
def isMailbox (text : List Char) : Bool :=
  let s := skipBlanks text
  if s.isEmpty then false
  else (mailboxAt? s).any fun rest => skipComments rest == some []

end SchemaKit.Format
