import SchemaKit.Text.Hex
import SchemaKit.Text.Split
import SchemaKit.Text.Utf8

/-!
# Field tags

A field carries a tag: a row of entries `key:"value"` with blanks between them. Values are quoted, with
escapes behind a backslash.

## Main definitions

* `Tag.unquote?` — the text between the quotes of a value.
* `Tag.entry?` — the first entry of a tag.
* `Tag.lookup?` — the value of a key.
* `Tag.splitName` — a value as a name and options.
-/

namespace SchemaKit.Shape.Tag

/-! ## Escapes -/

/-- The control character or mark that a letter stands for behind a backslash. -/
def letterByte? (c : Char) : Option UInt8 :=
  match c with
  | 'a' => some 7
  | 'b' => some 8
  | 't' => some 9
  | 'n' => some 10
  | 'v' => some 11
  | 'f' => some 12
  | 'r' => some 13
  | '\\' => some 92
  | '"' => some 34
  | _ => none

/-- The bytes of a character. -/
def charBytes (c : Char) : List UInt8 := (String.singleton c).toUTF8.toList

/-- The bytes of a character given by its number; there are none for surrogates. -/
def scalarBytes? (n : Nat) : Option (List UInt8) :=
  if n.isValidChar then some (charBytes (Char.ofNat n)) else none

/-- The bytes that an escape stands for, and how many characters it takes behind the letter. -/
def escape? (letter : Char) (rest : List Char) : Option (List UInt8 × Nat) :=
  let digits (n : Nat) : Option (List Char) :=
    let ds := rest.take n
    if ds.length = n then some ds else none
  match letter with
  | 'x' => do return ([UInt8.ofNat (← Text.digitsValue? 16 (← digits 2))], 2)
  | 'u' => do return (← scalarBytes? (← Text.digitsValue? 16 (← digits 4)), 4)
  | 'U' => do return (← scalarBytes? (← Text.digitsValue? 16 (← digits 8)), 8)
  | c =>
    if '0' ≤ c && c ≤ '7' then do
      let n ← Text.digitsValue? 8 (c :: (← digits 2))
      if n < 256 then return ([UInt8.ofNat n], 2) else none
    else (letterByte? c).map fun b => ([b], 0)

/-- The bytes of a quoted text behind its first quote, once `skip` characters are passed over. Behind
the last quote nothing may follow. -/
def unquoteBytes? : (skip : Nat) → List Char → Option (List UInt8)
  | skip + 1, _ :: rest => unquoteBytes? skip rest
  | 0, ['"'] => some []
  | 0, c :: rest =>
    if c = '"' || c = '\n' then none
    else if c = '\\' then
      match rest with
      | [] => none
      | letter :: more =>
        match escape? letter more with
        | none => none
        | some (bytes, n) => (unquoteBytes? (n + 1) rest).map (bytes ++ ·)
    else (unquoteBytes? 0 rest).map (charBytes c ++ ·)
  | _, [] => none

/-- The text of a quoted text behind its first quote. -/
def unquote? (s : List Char) : Option String :=
  (unquoteBytes? 0 s).map fun bytes => String.ofList (Text.decode bytes)

/-! ## Entries -/

/-- Whether a character may stand in a key. -/
def isKeyChar (c : Char) : Bool := 32 < c.toNat && c != ':' && c != '"' && c.toNat != 127

/-- A quoted text up to its last quote, and what follows; the first quote is not part of either. -/
def quoted? : List Char → Option (List Char × List Char)
  | [] => none
  | '"' :: rest => some (['"'], rest)
  | '\\' :: c :: rest => (quoted? rest).map fun (q, r) => ('\\' :: c :: q, r)
  | c :: rest => (quoted? rest).map fun (q, r) => (c :: q, r)

/-- The first entry of a tag, its value still quoted, and what follows. -/
def entry? (tag : List Char) : Option ((List Char × List Char) × List Char) :=
  let tag := tag.dropWhile (· == ' ')
  let key := tag.takeWhile isKeyChar
  match key, tag.dropWhile isKeyChar with
  | [], _ => none
  | key, ':' :: '"' :: rest => (quoted? rest).map fun (q, r) => ((key, q), r)
  | _, _ => none

/-- The value of a key among at most `fuel` entries. -/
def lookupIn? (key : List Char) : (fuel : Nat) → List Char → Option String
  | 0, _ => none
  | fuel + 1, tag =>
    match entry? tag with
    | none => none
    | some ((k, q), rest) => if k = key then unquote? q else lookupIn? key fuel rest

/-- The value of a key. A malformed entry hides all entries behind it. -/
def lookup? (key tag : String) : Option String := lookupIn? key.toList tag.length tag.toList

/-! ## Names and options -/

/-- A value as a name and options, divided by commas. -/
def splitName (value : String) : String × List String :=
  match Text.cut ',' value.toList with
  | none => (value, [""])
  | some (name, options) => (String.ofList name, (Text.splitAll ',' options).map String.ofList)

end SchemaKit.Shape.Tag
