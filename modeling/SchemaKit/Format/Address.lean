import SchemaKit.Json.Reader
import SchemaKit.Text.Split

/-!
# Network addresses

## Main definitions

* `isDotted` — four decimal numbers with points between them.
* `isColoned` — up to eight hexadecimal groups with colons between them; a double colon stands for
  one or more groups of zeros, and a dotted address for the last two groups.
* `isAddress` — an address of either kind.
* `isHostname` — dot-separated labels of letters, digits and inner dashes.
-/

namespace SchemaKit.Format

open Json (isDigit)

/-- A number up to 255 without leading zeros. -/
def isOctet (ds : List Char) : Bool :=
  !ds.isEmpty && ds.all isDigit && (ds.length == 1 || ds.head? != some '0') &&
    ds.length ≤ 3 && Decimal.value ds ≤ 255

/-- A dotted address. -/
def isDotted (s : List Char) : Bool :=
  let fields := Text.splitAll '.' s
  fields.length == 4 && fields.all isOctet

/-- Up to four hexadecimal digits. -/
def isGroup (ds : List Char) : Bool :=
  !ds.isEmpty && ds.length ≤ 4 && ds.all fun c => (Text.hexValue? c).isSome

/-- How many groups a list of fields makes up, if each of them is one; the last one may be a dotted
address, which counts for two. -/
def groupCount? : List (List Char) → Option Nat
  | [] => some 0
  | [last] => if isGroup last then some 1 else if isDotted last then some 2 else none
  | field :: rest => if isGroup field then (groupCount? rest).map (· + 1) else none

/-- The text before and behind the first double colon. -/
def cutDoubleColon : List Char → Option (List Char × List Char)
  | [] => none
  | ':' :: ':' :: rest => some ([], rest)
  | c :: rest => (cutDoubleColon rest).map fun (before, behind) => (c :: before, behind)

/-- The number of groups in a text that may be empty. -/
def groupsIn? (s : List Char) : Option Nat :=
  if s.isEmpty then some 0 else groupCount? (Text.splitAll ':' s)

/-- A coloned address. -/
def isColoned (s : List Char) : Bool :=
  match cutDoubleColon s with
  | none => groupsIn? s == some 8
  | some (before, behind) =>
    !before.contains '.' &&
      match groupsIn? before, groupsIn? behind with
      | some n, some m => n + m ≤ 7
      | _, _ => false

/-- An address: the first point or colon says of which kind. -/
def isAddress (s : List Char) : Bool :=
  match s.find? (fun c => c == '.' || c == ':') with
  | some '.' => isDotted s
  | some _ => isColoned s
  | none => false

/-- ASCII letter or digit. -/
def isLetterOrDigit (c : Char) : Bool :=
  ('a' ≤ c && c ≤ 'z') || ('A' ≤ c && c ≤ 'Z') || isDigit c

/-- Up to 63 letters, digits and dashes, with no dash at either end. -/
def isLabel (s : List Char) : Bool :=
  !s.isEmpty && s.length ≤ 63 && s.all (fun c => isLetterOrDigit c || c == '-') &&
    s.head? != some '-' && s.getLast? != some '-'

/-- Labels with points between them, less than 256 characters. -/
def isHostname (s : List Char) : Bool :=
  (Text.splitAll '.' s).all isLabel && s.length < 256

end SchemaKit.Format
