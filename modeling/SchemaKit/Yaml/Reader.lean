import SchemaKit.Text.Split
import SchemaKit.Text.Utf8
import SchemaKit.Yaml.Scalar

/-!
# Reading YAML

Only the first document of a text is read.

## Main definitions

* `State` — the place in the text, the nodes that have a name, and the handles of tags.
* `node`, `entries`, `items`, `flowNode` — nodes in blocks and in brackets.
* `directives?` — what stands in front of a document.
* `characters?` — the characters of a text, in eight or sixteen bits.
* `read?` — the first document of a text.

## Design

* An anchor has its node as soon as the node is complete. An alias inside of the node itself stands for
  `Node.opened`, which fits nowhere, so that the document can be read as long as nobody asks for it.
* The separators of lines and paragraphs `U+2028` and `U+2029` are ordinary characters here, and a tag for
  points in time says no more than that a scalar is a text.
-/

namespace SchemaKit.Yaml

/-- The place in the text, the nodes that have a name, and the handles of tags with what they stand for. A
name has no node yet as long as the node is not complete. -/
structure State where
  cursor : Cursor
  anchors : List (String × Option Node)
  handles : List (String × String)

/-- A reader that may fail. -/
abbrev Reader (α : Type) : Type := StateT State Option α

/-- The place in the text. -/
def cursor : Reader Cursor := do return (← get).cursor

/-- Goes to another place in the text. -/
def goTo (c : Cursor) : Reader Unit := modify fun s => ⟨c, s.anchors, s.handles⟩

/-- Changes the place in the text. -/
def move (f : Cursor → Cursor) : Reader Unit := do goTo (f (← cursor))

/-! ## Properties and aliases -/

/-- Whether a character can stand in the name of an anchor, a handle or a directive. -/
def isNameChar (c : Char) : Bool := c.isAlphanum || c = '_' || c = '-'

/-- The name of an anchor or alias, behind its mark. -/
def anchorName (c : Cursor) : String := String.ofList (c.rest.tail.takeWhile isNameChar)

/-- What stands in front of a node: a name for it, and a tag. -/
structure Properties where
  anchor : Option String
  tag : Option Tag

namespace Properties

/-- Nothing in front of a node. -/
def none : Properties := ⟨.none, .none⟩

/-- Whether nothing stands in front of a node. -/
def isEmpty (p : Properties) : Bool := p.anchor.isNone && p.tag.isNone

end Properties

/-- Whether a character can stand in the name of a tag. -/
def isTagChar (c : Char) : Bool := isNameChar c || ";/?:@&=+$,.%!~*\x27()[]".toList.contains c

/-- The bytes of the name of a tag, in which a percent sign stands in front of two hexadecimal digits. -/
def tagBytes? : List Char → Option (List UInt8)
  | [] => some []
  | '%' :: high :: low :: rest => do
    let n ← Text.digitsValue? 16 [high, low]
    return UInt8.ofNat n :: (← tagBytes? rest)
  | c :: rest => if c = '%' then none else (tagBytes? rest).map (UInt8.ofNat c.toNat :: ·)

/-- The name of a tag as it is written here, and what stands behind it. -/
def tagText? (s : List Char) : Option (List Char × List Char) :=
  let name := s.takeWhile isTagChar
  match tagBytes? name with
  | none => none
  | some bytes =>
    let pieces := Text.pieces bytes
    if pieces.all Text.Piece.isChar then some (pieces.map Text.Piece.seen, s.drop name.length) else none

/-- The handle at the start of a tag, all but its first mark: characters of a name, and the mark behind them
if there is one. -/
def handleOf (s : List Char) : List Char :=
  let name := s.takeWhile isNameChar
  if (s.drop name.length).head? = some '!' then name ++ ['!'] else name

/-- What the names of the common tags start with. -/
def commonTags : String := "tag:yaml.org,2002:"

/-- The tag with a name. The mark alone says nothing, and tags of other kinds say that a scalar is a
text. -/
def tagNamed (name : List Char) : Tag :=
  let name := match Text.afterStart? commonTags.toList name with
    | some kind => '!' :: '!' :: kind
    | none => name
  match String.ofList name with
  | "!" => .plain
  | "!!binary" => .binary
  | "!!null" => .null
  | "!!bool" => .truth
  | "!!int" => .integer
  | "!!float" => .real
  | "!!merge" => .merge
  | _ => .text

/-- The tag that starts behind a mark, and what stands behind it. A tag is given by its whole name in angle
brackets, or by a handle and the rest of its name; without a handle it is `!`, the mark itself. -/
def tag? (handles : List (String × String)) (s : List Char) : Option (Tag × List Char) :=
  match s with
  | '<' :: s => do
    let (name, behind) ← tagText? s
    if name.isEmpty || behind.head? ≠ some '>' then none else some (tagNamed name, behind.tail)
  | s => do
    let start := handleOf s
    let isHandle := start.getLast? = some '!'
    let (suffix, behind) ← tagText? (if isHandle then s.drop start.length else s)
    if suffix.isEmpty then if isHandle then none else some (.plain, behind)
    else
      let stem ← handles.lookup (String.ofList ('!' :: (if isHandle then start else [])))
      some (tagNamed (stem.toList ++ suffix), behind)

/-- Whether the name of an anchor or alias can end in front of a character. -/
def endsName (c : Option Char) : Bool :=
  isBreak c || c.any fun d => "?:,]\x7d%@\x60".toList.contains d

/-- Passes over one property, if there is one of a kind that is still missing. -/
def property? (handles : List (String × String)) (c : Cursor) (p : Properties) :
    Option (Option (Properties × Cursor)) :=
  match c.peek?, p.anchor, p.tag with
  | some '&', .none, tag =>
    let name := anchorName c
    let c : Cursor := ⟨c.rest.drop (name.length + 1), c.column + name.length + 1⟩
    if name = "" || !endsName c.peek? then none else some (some (⟨some name, tag⟩, c.skipBlanks))
  | some '!', anchor, .none =>
    match tag? handles c.rest.tail with
    | none => none
    | some (tag, behind) =>
      let c : Cursor := ⟨behind, c.column + (c.rest.length - behind.length)⟩
      if isBreak c.peek? then some (some (⟨anchor, some tag⟩, c.skipBlanks)) else none
  | _, _, _ => some none

/-- Passes over the properties of a node: at most one of each kind, in either order. -/
def properties : Reader Properties := do
  let s ← get
  let some first := property? s.handles s.cursor .none | failure
  match first with
  | none => return .none
  | some (p, c) =>
    let some second := property? s.handles c p | failure
    let (p, c) := second.getD (p, c)
    set (State.mk c (p.anchor.toList.map (·, .none) ++ s.anchors) s.handles)
    return p

/-- Gives the node of the innermost anchor with a name that has none yet. -/
def settleAnchor (name : String) (n : Node) : List (String × Option Node) → List (String × Option Node)
  | [] => []
  | (other, some m) :: rest => (other, some m) :: settleAnchor name n rest
  | (other, none) :: rest =>
    if other = name then (other, some n) :: rest else (other, none) :: settleAnchor name n rest

/-- Gives a node the properties that stand in front of it. An alias has none. -/
def withProperties (p : Properties) (n : Node) : Reader Node := do
  let n ← match n, p.tag with
    | .scalar text tag, some other => pure (.scalar text (if other = .plain then tag else other))
    | .byName anchor target, _ => if p.isEmpty then pure (.byName anchor target) else failure
    | n, _ => pure n
  match p.anchor with
  | some name => modify fun s => ⟨s.cursor, settleAnchor name n s.anchors, s.handles⟩
  | none => pure ()
  return n

/-- An alias with the node that it stands for. -/
def aliased : Reader Node := do
  let s ← get
  let name := anchorName s.cursor
  let behind : Cursor := ⟨s.cursor.rest.drop (name.length + 1), s.cursor.column + name.length + 1⟩
  match s.anchors.lookup name with
  | none => failure
  | some target =>
    if !endsName behind.peek? then failure
    goTo behind
    return .byName name (target.getD .opened)

/-- Takes a scanned scalar. -/
def take (tag : Tag) (scanned : Option Scanned) : Reader Node := do
  match scanned with
  | none => failure
  | some s =>
    goTo s.behind
    return .scalar s.text tag

/-- A quoted or plain scalar. -/
def word (flow : Bool) (indent : Nat) : Reader Node := do
  let c ← cursor
  match c.peek? with
  | some '"' | some '\x27' => take .text (quoted? c)
  | _ => take .plain (plain? flow indent c)

/-! ## Brackets -/

mutual

/-- A node inside brackets. -/
def flowNode : (fuel : Nat) → Reader Node
  | 0 => failure
  | fuel + 1 => do
    move Cursor.toNextFlow
    let p ← properties
    move Cursor.toNextFlow
    let c ← cursor
    let n ← match c.peek? with
      | some '[' => do
        goTo c.next
        pure (.list (← flowItems fuel))
      | some '\x7b' => do
        goTo c.next
        pure (.table (← flowEntries fuel))
      | some '*' => aliased
      | some d => if !p.isEmpty && (isFlowMark d || d = ':') then pure .nothing else word true 0
      | none => failure
    withProperties p n

/-- A key inside brackets, and whether a colon follows: it has to stand on the line of the key, unless the
key has a mark in front of it. -/
def flowKey : (fuel : Nat) → Reader (Node × Bool)
  | 0 => failure
  | fuel + 1 => do
    move Cursor.toNextFlow
    let c ← cursor
    if c.peek? = some '?' then
      goTo c.next.toNextFlow
      let d ← cursor
      let k ← if d.peek?.any fun d => d = ':' || d = ',' || d = ']' || d = '\x7d' then pure .nothing
        else flowNode fuel
      move Cursor.toNextFlow
      return (k, (← cursor).peek? = some ':')
    else
      let k ← flowNode fuel
      move Cursor.toNextFlow
      let d ← cursor
      return (k, d.peek? = some ':' && c.reachesOnLine d)

/-- The items of a list up to its bracket. An item with a colon is a table with one entry. -/
def flowItems : (fuel : Nat) → Reader (List Node)
  | 0 => failure
  | fuel + 1 => do
    move Cursor.toNextFlow
    let c ← cursor
    if c.peek? = some ']' then
      goTo c.next
      return []
    let (n, hasColon) ← flowKey fuel
    let n ← if hasColon then pure (.table [(n, ← flowValue fuel)]) else pure n
    let c ← cursor
    match c.peek? with
    | some ',' =>
      goTo c.next
      return n :: (← flowItems fuel)
    | some ']' =>
      goTo c.next
      return [n]
    | _ => failure

/-- A colon and the value behind it inside brackets. -/
def flowValue : (fuel : Nat) → Reader Node
  | 0 => failure
  | fuel + 1 => do
    move fun c => c.next.toNextFlow
    let c ← cursor
    let n ← match c.peek? with
      | some d =>
        if d = ',' || d = ']' || d = '\x7d' then pure .nothing else flowNode fuel
      | none => failure
    move Cursor.toNextFlow
    return n

/-- The entries of a table up to its bracket. A key without a colon has no value. -/
def flowEntries : (fuel : Nat) → Reader (List (Node × Node))
  | 0 => failure
  | fuel + 1 => do
    move Cursor.toNextFlow
    let c ← cursor
    if c.peek? = some '\x7d' then
      goTo c.next
      return []
    let (k, hasColon) ← flowKey fuel
    let v ← if hasColon then flowValue fuel else pure .nothing
    let c ← cursor
    match c.peek? with
    | some ',' =>
      goTo c.next
      return (k, v) :: (← flowEntries fuel)
    | some '\x7d' =>
      goTo c.next
      return [(k, v)]
    | _ => failure

end

/-! ## Keys -/

/-- The node of a key. -/
def keyNode (fuel : Nat) : Reader Node := do
  let p ← properties
  let c ← cursor
  let n ← match c.peek? with
    | some '[' | some '\x7b' => flowNode fuel
    | some '*' => aliased
    | _ => if c.atIndicator ':' then pure .nothing else word false (c.column + 1)
  withProperties p n

/-- A key with its colon on one line, if one stands here: the key and the state behind the colon. -/
def key? (fuel : Nat) (s : State) : Option (Node × State) :=
  match (keyNode fuel).run s with
  | none => none
  | some (k, t) =>
    let c := t.cursor.skipBlanks
    if s.cursor.reachesOnLine c && c.atIndicator ':' then some (k, ⟨c.next, t.anchors, t.handles⟩)
    else none

/-! ## Blocks -/

mutual

/-- A node inside a collection whose column is one less than `least`. Collections can start here only if
`fresh`: at the start of a line or behind the mark of an item. -/
def node : (fuel : Nat) → (least : Nat) → (fresh : Bool) → Reader Node
  | 0, _, _ => failure
  | fuel + 1, least, fresh => do
    let s ← get
    if s.cursor.atIndicator '-' then
      if fresh then return .list (← items fuel s.cursor.column false) else failure
    if fresh && (s.cursor.atIndicator '?' || (key? fuel s).isSome) then
      return .table (← entries fuel s.cursor.column)
    let p ← properties
    let c ← cursor
    if !p.isEmpty && c.atLineEnd then
      goTo c.toNext
      withProperties p (← inner fuel least)
    else
      let n ← match c.peek? with
        | some '[' | some '\x7b' => flowNode fuel
        | some '|' | some '>' => take .text (block? least c)
        | some '*' => aliased
        | _ => word false least
      withProperties p n

/-- A node on the lines that follow, if they are indented enough. -/
def inner : (fuel : Nat) → (least : Nat) → Reader Node
  | 0, _ => failure
  | fuel + 1, least => do
    let c ← cursor
    if c.atEnd || c.column < least then return .nothing else node fuel least true

/-- What stands behind the mark or the colon of a key in a table in column `column`. A list may stand in
the same column. Other collections can start on the same line only if `fresh`. -/
def value : (fuel : Nat) → (column : Nat) → (fresh : Bool) → Reader Node
  | 0, _, _ => failure
  | fuel + 1, column, fresh => do
    let c ← cursor
    if c.atLineEnd then
      goTo c.toNext
      let c ← cursor
      if c.column = column && !c.atEnd && c.atIndicator '-' then return .list (← items fuel column true)
      else inner fuel (column + 1)
    else
      goTo (if fresh then c.toFresh else c.skipBlanks)
      node fuel (column + 1) fresh

/-- One entry of a table in column `column`: a key with its colon on one line, or a key and a value with
marks of their own. -/
def entry : (fuel : Nat) → (column : Nat) → Reader (Node × Node)
  | 0, _ => failure
  | fuel + 1, column => do
    let s ← get
    if s.cursor.atIndicator '?' then
      goTo s.cursor.next
      let k ← value fuel column true
      move Cursor.toNext
      let c ← cursor
      if c.column = column && c.atIndicator ':' then
        goTo c.next
        return (k, ← value fuel column true)
      else return (k, .nothing)
    else match key? fuel s with
      | none => failure
      | some (k, t) =>
        set t
        return (k, ← value fuel column false)

/-- The entries of a table in column `column`. -/
def entries : (fuel : Nat) → (column : Nat) → Reader (List (Node × Node))
  | 0, _ => failure
  | fuel + 1, column => do
    let e ← entry fuel column
    move Cursor.toNext
    let c ← cursor
    if c.atEnd || c.column < column then return [e]
    else if c.column = column then return e :: (← entries fuel column)
    else failure

/-- The items of a list in column `column`. A list in the column of the table around it ends with the next
key. -/
def items : (fuel : Nat) → (column : Nat) → (isShared : Bool) → Reader (List Node)
  | 0, _, _ => failure
  | fuel + 1, column, isShared => do
    move Cursor.next
    let c ← cursor
    let n ← if c.atLineEnd then do
        goTo c.toNext
        inner fuel (column + 1)
      else do
        goTo c.toFresh
        node fuel (column + 1) true
    move Cursor.toNext
    let c ← cursor
    if c.atEnd || c.column < column then return [n]
    else if c.column = column && c.atIndicator '-' then return n :: (← items fuel column isShared)
    else if c.column = column && isShared then return [n]
    else failure

end

/-! ## Directives -/

/-- What directives say: whether a version is given, and the handles of tags. -/
structure Directives where
  hasVersion : Bool
  handles : List (String × String)

/-- The handles that need no directive. -/
def commonHandles : List (String × String) := [("!", "!"), ("!!", commonTags)]

/-- The version in a directive and what stands behind it. The only version is 1.1, its numbers written
with one digit or two. -/
def version? (s : List Char) : Option (List Char) :=
  let one? (s : List Char) : Option (List Char) :=
    let digits := s.takeWhile Char.isDigit
    if digits.length ≤ 2 && Text.digitsValue? 10 digits = some 1 then some (s.drop digits.length) else none
  match one? s with
  | some ('.' :: rest) => one? rest
  | _ => none

/-- The handle and the start of names in a directive, and what stands behind them. -/
def handle? (s : List Char) : Option ((String × String) × List Char) :=
  match s with
  | '!' :: rest => do
    let name := handleOf rest
    let behind := rest.drop name.length
    let isBlank (c : Char) : Bool := c = ' ' || c = '\t'
    if !(name.isEmpty || name.getLast? = some '!') || !behind.head?.any isBlank then none
    else
      let (stem, behind) ← tagText? (behind.dropWhile isBlank)
      if stem.isEmpty || !isBreak behind.head? then none
      else some ((String.ofList ('!' :: name), String.ofList stem), behind)
  | _ => none

/-- One more directive, behind its mark, and the line behind it. Version and handles are given once. -/
def Directives.add? (ds : Directives) (s : List Char) : Option (Directives × List Char) := do
  let name := s.takeWhile isNameChar
  let behind := s.drop name.length
  if !isBreak behind.head? then none
  else
    let (ds, behind) ← match String.ofList name with
      | "YAML" =>
        if ds.hasVersion then none
        else (version? (Cursor.mk behind 0).skipBlanks.rest).map (⟨true, ds.handles⟩, ·)
      | "TAG" => do
        let (h, behind) ← handle? (Cursor.mk behind 0).skipBlanks.rest
        if (ds.handles.lookup h.1).isSome then none
        else some (⟨ds.hasVersion, ds.handles ++ [h]⟩, behind)
      | _ => none
    if (Cursor.mk behind 0).atLineEnd then some (ds, behind.dropWhile (· != '\n')) else none

/-- Passes over directives at the start of a text, at most `fuel` of them. A document behind directives
starts with its marker. -/
def directives? : (fuel : Nat) → Directives → Cursor → Option (Directives × Cursor)
  | 0, _, _ => none
  | fuel + 1, ds, c =>
    let c := c.toFresh
    if c.column = 0 && c.peek? = some '%' then
      match ds.add? c.rest.tail with
      | none => none
      | some (ds, rest) =>
        let c := (⟨rest, 0⟩ : Cursor).toFresh
        if (c.atMarker && c.peek? = some '-') || (c.column = 0 && c.peek? = some '%') then
          directives? fuel ds c
        else none
    else some (ds, c)

/-! ## Documents -/

/-- Whether a character may stand in a text. -/
def isReadable (c : Char) : Bool :=
  let n := c.toNat
  c = '\t' || c = '\n' || (32 ≤ n && n ≤ 126) || n = 0x85 || (0xA0 ≤ n && n ≠ 0xFFFE && n ≠ 0xFFFF)

/-- Line ends in one form. -/
def plainLines : List Char → List Char
  | '\r' :: '\n' :: rest => '\n' :: plainLines rest
  | '\r' :: rest => '\n' :: plainLines rest
  | c :: rest => (if c.toNat = 0x85 then '\n' else c) :: plainLines rest
  | [] => []

/-- The characters of units of sixteen bits: a unit of the first half of surrogates takes one of the second
half with it. -/
def unitChars? : List Nat → Option (List Char)
  | [] => some []
  | high :: rest =>
    if high / 1024 = 54 then
      match rest with
      | low :: rest =>
        if low / 1024 = 55 then
          (unitChars? rest).map (Char.ofNat (65536 + high % 1024 * 1024 + low % 1024) :: ·)
        else none
      | [] => none
    else if high / 1024 = 55 then none
    else (unitChars? rest).map (Char.ofNat high :: ·)

/-- The units of sixteen bits that pairs of bytes make up. -/
def units? (unit : UInt8 → UInt8 → Nat) : List UInt8 → Option (List Nat)
  | [] => some []
  | [_] => none
  | a :: b :: rest => (units? unit rest).map (unit a b :: ·)

/-- The characters of a text. A mark in front of it says that it is written in sixteen bits, and in which
order their bytes are; otherwise it is written in eight bits, with or without a mark of its own. -/
def characters? : List UInt8 → Option (List Char)
  | 0xFF :: 0xFE :: rest => (units? (fun a b => a.toNat + 256 * b.toNat) rest).bind unitChars?
  | 0xFE :: 0xFF :: rest => (units? (fun a b => 256 * a.toNat + b.toNat) rest).bind unitChars?
  | bytes =>
    let pieces := Text.pieces bytes
    if pieces.all Text.Piece.isChar then
      let chars := pieces.map Text.Piece.seen
      some (if chars.head? = some '\uFEFF' then chars.tail else chars)
    else none

/-- The lines of a text, if it can be read. -/
def readable? (bytes : List UInt8) : Option (List Char) :=
  ((characters? bytes).map plainLines).filter (·.all isReadable)

/-- The root of a document. -/
def root (fuel : Nat) : Reader Node := do
  let c ← cursor
  if c.atMarker && c.peek? = some '-' then
    let c : Cursor := ⟨c.rest.drop 3, 3⟩
    if c.atLineEnd then
      goTo c.toNext
      inner fuel 0
    else
      goTo c.skipBlanks
      node fuel 0 false
  else inner fuel 0

/-- The first document of a text. -/
def read? (bytes : List UInt8) : Option Node := do
  let chars ← readable? bytes
  let fuel := 6 * chars.length + 16
  let (ds, c) ← directives? fuel ⟨false, []⟩ ⟨chars, 0⟩
  let (n, _) ← (root fuel).run ⟨c, [], ds.handles ++ commonHandles⟩
  return n

end SchemaKit.Yaml
