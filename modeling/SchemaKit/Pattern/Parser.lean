import SchemaKit.Json.Reader
import SchemaKit.Pattern.Basic
import SchemaKit.Pattern.Property

/-!
# Reading patterns

The notation is that of linear-time regular expressions: no look-around and no back references.
Patterns are read from left to right with a stack of open groups.

## Main definitions

* `Flags` — the modes that `(?…)` switches.
* `Pattern.parse?` — the pattern that a text denotes, if it is well formed.
-/

namespace SchemaKit.Pattern

/-- Modes of a pattern: case is ignored, `^` and `$` match at line ends, `.` matches line feeds. -/
structure Flags where
  ignoreCase : Bool
  multiLine : Bool
  dotAll : Bool

/-- Repetition counts go up to a thousand, also where repetitions are nested. -/
def maxRepeat : Nat := 1000

/-- A finished part of a pattern, with the largest product of nested repetition counts in it. -/
structure Part where
  pattern : Pattern
  weight : Nat

/-- An open group: finished alternatives and parts of the current one, both in reverse order, and
the modes outside of the group. -/
structure Group where
  alternatives : List Part
  current : List Part
  outer : Flags

/-- Parts put in sequence. Parts are in reverse order. -/
def joinParts (parts : List Part) : Part :=
  ⟨sequence (parts.reverse.map (·.pattern)), parts.foldl (fun w p => max w p.weight) 1⟩

/-- A group as one part. -/
def Group.close (g : Group) : Part :=
  let all := joinParts g.current :: g.alternatives
  ⟨choice (all.reverse.map (·.pattern)), all.foldl (fun w p => max w p.weight) 1⟩

/-! ## Characters -/

/-- Digits of a number at the start of a text. -/
def digitsAt (cs : List Char) : List Char × List Char :=
  (cs.takeWhile Json.isDigit, cs.dropWhile Json.isDigit)

/-- ASCII letter or digit. -/
def isAlnum (c : Char) : Bool := isWordChar c && c != '_'

/-- Octal digit. -/
def isOctal (c : Char) : Bool := '0' ≤ c && c ≤ '7'

/-- The character after a backslash, where it stands for one character. -/
def escaped? : List Char → Option (Char × List Char)
  | [] => none
  | c :: rest =>
    if isOctal c && (c == '0' || rest.head?.any isOctal) then
      let more := (rest.take 2).takeWhile isOctal
      let n := (c :: more).foldl (fun n d => 8 * n + (d.toNat - 48)) 0
      some (Char.ofNat n, rest.drop more.length)
    else match c with
      | 'x' =>
        match rest with
        | '\x7b' :: body =>
          let ds := body.takeWhile (· != '\x7d')
          let vs := ds.filterMap Text.hexValue?
          let n := vs.foldl (fun n d => 16 * n + d) 0
          if ds.isEmpty || vs.length != ds.length || n > 1114111 ||
              body.length == ds.length then none
          else some (Char.ofNat n, body.drop (ds.length + 1))
        | a :: b :: more =>
          match Text.hexValue? a, Text.hexValue? b with
          | some x, some y => some (Char.ofNat (16 * x + y), more)
          | _, _ => none
        | _ => none
      | 'a' => some ('\x07', rest)
      | 'f' => some ('\x0c', rest)
      | 'n' => some ('\n', rest)
      | 'r' => some ('\r', rest)
      | 't' => some ('\t', rest)
      | 'v' => some ('\x0b', rest)
      | c => if c.toNat < 128 && !isAlnum c then some (c, rest) else none

/-- `0` to `9`. -/
def digitIntervals : List (Nat × Nat) := [(48, 57)]

/-- Blanks. -/
def spaceIntervals : List (Nat × Nat) := [(9, 10), (12, 13), (32, 32)]

/-- Characters of words. -/
def wordIntervals : List (Nat × Nat) := [(48, 57), (65, 90), (95, 95), (97, 122)]

/-- The code points outside of intervals. -/
def complement (intervals : List (Nat × Nat)) : List (Nat × Nat) :=
  let sorted := intervals.mergeSort (fun a b => a.1 ≤ b.1)
  let (next, gaps) := sorted.foldl (fun (next, gaps) (lo, hi) =>
    (max next (hi + 1), if next < lo then (next, lo - 1) :: gaps else gaps)) (0, [])
  (if next ≤ 1114111 then (next, 1114111) :: gaps else gaps).reverse

/-- The class that a letter after a backslash names. -/
def perlClass? (c : Char) : Option (List (Nat × Nat)) :=
  match c with
  | 'd' => some digitIntervals
  | 'D' => some (complement digitIntervals)
  | 's' => some spaceIntervals
  | 'S' => some (complement spaceIntervals)
  | 'w' => some wordIntervals
  | 'W' => some (complement wordIntervals)
  | _ => none

/-- The class that a name between `[:` and `:]` stands for. -/
def namedClass? (name : String) : Option (List (Nat × Nat)) :=
  match name with
  | "alnum" => some [(48, 57), (65, 90), (97, 122)]
  | "alpha" => some [(65, 90), (97, 122)]
  | "ascii" => some [(0, 127)]
  | "blank" => some [(9, 9), (32, 32)]
  | "cntrl" => some [(0, 31), (127, 127)]
  | "digit" => some [(48, 57)]
  | "graph" => some [(33, 126)]
  | "lower" => some [(97, 122)]
  | "print" => some [(32, 126)]
  | "punct" => some [(33, 47), (58, 64), (91, 96), (123, 126)]
  | "space" => some [(9, 13), (32, 32)]
  | "upper" => some [(65, 90)]
  | "word" => some wordIntervals
  | "xdigit" => some [(48, 57), (65, 70), (97, 102)]
  | _ => none

/-- A property `\p…` or `\P…`, with the text behind it. The first character says which. -/
def property? (negated : Bool) : List Char → Option (List (Nat × Nat) × List Char)
  | '\x7b' :: body =>
    let name := body.takeWhile (· != '\x7d')
    let rest := body.drop name.length
    match rest, name with
    | [], _ => none
    | _ :: rest, '^' :: name =>
      (propertyIntervals? (String.ofList name)).map fun is =>
        (if negated then is else complement is, rest)
    | _ :: rest, name =>
      (propertyIntervals? (String.ofList name)).map fun is =>
        (if negated then complement is else is, rest)
  | c :: rest =>
    (propertyIntervals? (String.ofList [c])).map fun is =>
      (if negated then complement is else is, rest)
  | [] => none

/-! ## Bracketed classes -/

/-- One end of an interval inside brackets. -/
def classChar? : List Char → Option (Char × List Char)
  | [] => none
  | '\\' :: rest => escaped? rest
  | c :: rest => some (c, rest)

/-- The text up to `:]`, and what is behind it. -/
def upToColonBracket : List Char → Option (List Char × List Char)
  | [] => none
  | ':' :: ']' :: rest => some ([], rest)
  | c :: rest => (upToColonBracket rest).map fun (name, more) => (c :: name, more)

/-- The members of a bracketed class up to its end. -/
def classBody : (fuel : Nat) → (first : Bool) → List (Nat × Nat) → List Char →
    Option (List (Nat × Nat) × List Char)
  | 0, _, _, _ => none
  | fuel + 1, first, acc, cs =>
    match cs with
    | [] => none
    | ']' :: rest =>
      if first then interval fuel acc cs else some (acc, rest)
    | '[' :: ':' :: rest =>
      match upToColonBracket rest with
      | none => interval fuel acc cs
      | some (name, more) =>
        let (negated, name) := match name with
          | '^' :: n => (true, n)
          | n => (false, n)
        match namedClass? (String.ofList name) with
        | none => none
        | some is => classBody fuel false (acc ++ if negated then complement is else is) more
    | '\\' :: 'p' :: rest =>
      match property? false rest with
      | none => none
      | some (is, more) => classBody fuel false (acc ++ is) more
    | '\\' :: 'P' :: rest =>
      match property? true rest with
      | none => none
      | some (is, more) => classBody fuel false (acc ++ is) more
    | '\\' :: c :: rest =>
      match perlClass? c with
      | some is => classBody fuel false (acc ++ is) rest
      | none => interval fuel acc cs
    | _ => interval fuel acc cs
where
  /-- A character or an interval of characters. -/
  interval (fuel : Nat) (acc : List (Nat × Nat)) (cs : List Char) :
      Option (List (Nat × Nat) × List Char) :=
    match classChar? cs with
    | none => none
    | some (lo, rest) =>
      match rest with
      | '-' :: ']' :: _ => classBody fuel false (acc ++ [(lo.toNat, lo.toNat)]) rest
      | '-' :: more =>
        match classChar? more with
        | none => none
        | some (hi, after) =>
          if hi < lo then none
          else classBody fuel false (acc ++ [(lo.toNat, hi.toNat)]) after
      | _ => classBody fuel false (acc ++ [(lo.toNat, lo.toNat)]) rest

/-- A bracketed class behind its opening bracket. -/
def bracketed (flags : Flags) (cs : List Char) : Option (CharClass × List Char) :=
  let (negated, body) := match cs with
    | '^' :: rest => (true, rest)
    | _ => (false, cs)
  (classBody (body.length + 1) true [] body).map fun (is, rest) =>
    (⟨is, flags.ignoreCase, negated⟩, rest)

/-! ## Repetition -/

/-- The counts of `{n}`, `{n,}` or `{n,m}` behind the opening brace. A number has no leading zero. -/
def counts? (cs : List Char) : Option (Nat × Option Nat × List Char) :=
  let number (ds : List Char) : Option Nat :=
    match ds with
    | [] => none
    | '0' :: _ :: _ => none
    | _ => some (Decimal.value ds)
  let (least, rest) := digitsAt cs
  match number least with
  | none => none
  | some n =>
    match rest with
    | '\x7d' :: more => some (n, some n, more)
    | ',' :: '\x7d' :: more => some (n, none, more)
    | ',' :: more =>
      let (most, after) := digitsAt more
      match number most, after with
      | some m, '\x7d' :: tail => some (n, some m, tail)
      | _, _ => none
    | _ => none

/-! ## Groups -/

/-- The modes between `(?` and `:` or `)`; the flag tells a group from a switch. -/
def switches : List Char → (negative : Bool) → (any : Bool) → Flags →
    Option (Flags × Bool × List Char)
  | [], _, _, _ => none
  | c :: rest, negative, any, f =>
    match c with
    | 'i' => switches rest negative true { f with ignoreCase := !negative }
    | 'm' => switches rest negative true { f with multiLine := !negative }
    | 's' => switches rest negative true { f with dotAll := !negative }
    | 'U' => switches rest negative true f
    | '-' => if negative then none else switches rest true false f
    | ':' => if negative && !any then none else some (f, true, rest)
    | ')' => if negative && !any then none else some (f, false, rest)
    | _ => none

/-- The name of a group between `<` and `>`. -/
def groupName? (cs : List Char) : Option (String × List Char) :=
  let name := cs.takeWhile (· != '>')
  if name.length == cs.length || name.isEmpty || !name.all isWordChar then none
  else some (String.ofList name, cs.drop (name.length + 1))

/-- What an opening parenthesis starts. -/
inductive Opening where
  | group (name : Option String) (inner : Flags) (rest : List Char)
  | switch (flags : Flags) (rest : List Char)

/-- Reads behind an opening parenthesis. -/
def opening? (flags : Flags) (cs : List Char) : Option Opening :=
  match cs with
  | '?' :: 'P' :: '<' :: rest =>
    (groupName? rest).map fun (name, more) => .group (some name) flags more
  | '?' :: '<' :: rest => (groupName? rest).map fun (name, more) => .group (some name) flags more
  | '?' :: rest =>
    (switches rest false false flags).map fun (f, opens, more) =>
      if opens then .group none f more else .switch f more
  | _ => some (.group none flags cs)

/-! ## The reader -/

/-- The state of the reader: the innermost group, the groups around it, modes, names of groups seen,
and whether a repetition stands right before. -/
structure State where
  top : Group
  below : List Group
  flags : Flags
  names : List String
  repeated : Bool

/-- Adds a part. -/
def State.add (s : State) (p : Pattern) : State :=
  { s with top := { s.top with current := ⟨p, 1⟩ :: s.top.current }, repeated := false }

/-- Adds a class given by intervals. -/
def State.addClass (s : State) (is : List (Nat × Nat)) : State :=
  s.add (.chars ⟨is, s.flags.ignoreCase, false⟩)

/-- Repeats the last part. A second repetition right behind the first is an error. -/
def State.repeatLast (s : State) (least : Nat) (most : Option Nat) : Option State :=
  if s.repeated then none
  else match s.top.current with
    | [] => none
    | p :: rest =>
      let n := most.getD least
      let weight := if most = some 0 then 1 else max 1 n * p.weight
      if (2 ≤ least || 2 ≤ n) && maxRepeat < weight then none
      else
        let part : Part := ⟨p.pattern.between least most, weight⟩
        some { s with top := { s.top with current := part :: rest }, repeated := true }

/-- A repetition mark may be followed by a question mark. -/
def dropLazy : List Char → List Char
  | '?' :: rest => rest
  | cs => cs

/-- Adds characters literally, up to `\E`. -/
def State.addLiteral (s : State) : List Char → State × List Char
  | [] => (s, [])
  | '\\' :: 'E' :: rest => (s, rest)
  | c :: rest => (s.add (.chars (.single c s.flags.ignoreCase))).addLiteral rest

/-- What stands behind a backslash outside of brackets. -/
def State.escape (s : State) (cs : List Char) : Option (State × List Char) :=
  match cs with
  | 'A' :: rest => some (s.add .textStart, rest)
  | 'z' :: rest => some (s.add .textEnd, rest)
  | 'b' :: rest => some (s.add (.wordEdge false), rest)
  | 'B' :: rest => some (s.add (.wordEdge true), rest)
  | 'Q' :: rest => some (State.addLiteral { s with repeated := false } rest)
  | 'p' :: rest => (property? false rest).map fun (is, more) => (s.addClass is, more)
  | 'P' :: rest => (property? true rest).map fun (is, more) => (s.addClass is, more)
  | c :: rest =>
    match perlClass? c with
    | some is => some (s.addClass is, rest)
    | none =>
      (escaped? cs).map fun (c, more) => (s.add (.chars (.single c s.flags.ignoreCase)), more)
  | [] => none

/-- Takes the next item of the pattern text, which starts with `c`. -/
def State.item (s : State) (c : Char) (rest : List Char) : Option (State × List Char) :=
  match c with
  | '(' =>
    match opening? s.flags rest with
    | none => none
    | some (.switch f more) => some ({ s with flags := f, repeated := false }, more)
    | some (.group name f more) =>
      if name.any s.names.contains then none
      else some ({ top := ⟨[], [], s.flags⟩, below := s.top :: s.below, flags := f,
                   names := name.toList ++ s.names, repeated := false }, more)
  | ')' =>
    match s.below with
    | [] => none
    | g :: below =>
      some ({ s with top := { g with current := s.top.close :: g.current }, below := below,
                     flags := s.top.outer, repeated := false }, rest)
  | '|' =>
    let done := joinParts s.top.current :: s.top.alternatives
    some ({ s with top := ⟨done, [], s.top.outer⟩, repeated := false }, rest)
  | '^' => some (s.add (if s.flags.multiLine then .lineStart else .textStart), rest)
  | '$' => some (s.add (if s.flags.multiLine then .lineEnd else .textEnd), rest)
  | '.' => some (s.add (.chars (if s.flags.dotAll then .any else .anyInLine)), rest)
  | '[' => (bracketed s.flags rest).map fun (k, more) => (s.add (.chars k), more)
  | '*' => (s.repeatLast 0 none).map (·, dropLazy rest)
  | '+' => (s.repeatLast 1 none).map (·, dropLazy rest)
  | '?' => (s.repeatLast 0 (some 1)).map (·, dropLazy rest)
  | '\x7b' =>
    match counts? rest with
    | none => some (s.add (.chars (.single c s.flags.ignoreCase)), rest)
    | some (least, most, more) =>
      if maxRepeat < least || most.any (fun m => maxRepeat < m || m < least) then none
      else (s.repeatLast least most).map (·, dropLazy more)
  | '\\' => s.escape rest
  | c => some (s.add (.chars (.single c s.flags.ignoreCase)), rest)

/-- Reads items up to the end of the text. -/
def State.run : (fuel : Nat) → State → List Char → Option State
  | _, s, [] => some s
  | 0, _, _ :: _ => none
  | fuel + 1, s, c :: rest => (s.item c rest).bind fun (s, more) => s.run fuel more

/-- The pattern that a text denotes. -/
def parse? (text : String) : Option Pattern :=
  let cs := text.toList
  let start : State := ⟨⟨[], [], ⟨false, false, false⟩⟩, [], ⟨false, false, false⟩, [], false⟩
  (start.run cs.length cs).bind fun s => if s.below.isEmpty then some s.top.close.pattern else none

end SchemaKit.Pattern
