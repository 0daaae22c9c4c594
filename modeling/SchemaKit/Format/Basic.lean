import SchemaKit.Format.Clock
import SchemaKit.Format.Mailbox
import SchemaKit.Pattern.Parser
import SchemaKit.Uri.Basic

/-!
# Named string formats

A schema can name the format that strings have to follow. Names that are not known restrict
nothing.

## Main definitions

* `Format` — the formats that are known.
* `Format.ofName?` — the format of a name.
* `Format.admits` — whether a text follows a format.
-/

namespace SchemaKit

/-- A format of texts. -/
inductive Format where
  | date
  | time
  | dateTime
  | hostname
  | email
  | ipv4
  | ipv6
  | uri
  | uriReference
  | uriTemplate
  | uuid
  | regex
  | pointer
  | relativePointer
  deriving DecidableEq, Repr

namespace Format

/-- The format that a name stands for. -/
def ofName? (name : String) : Option Format :=
  match name with
  | "date" => some date
  | "time" => some time
  | "date-time" => some dateTime
  | "hostname" => some hostname
  | "email" => some email
  | "idn-email" => some email
  | "ipv4" => some ipv4
  | "ipv6" => some ipv6
  | "uri" => some uri
  | "iri" => some uri
  | "uri-reference" => some uriReference
  | "iri-reference" => some uriReference
  | "uri-template" => some uriTemplate
  | "uuid" => some uuid
  | "regex" => some regex
  | "json-pointer" => some pointer
  | "relative-json-pointer" => some relativePointer
  | _ => none

/-- Every opening brace has a closing brace behind it, with no other closing brace between. -/
def bracesClose : (inside : Bool) → List Char → Bool
  | inside, [] => !inside
  | false, c :: rest => bracesClose (c == '\x7b') rest
  | true, c :: rest => bracesClose (c != '\x7d') rest

/-- A reference without backslashes. -/
def reference? (s : String) : Option Uri :=
  if s.toList.contains '\\' then none else (Uri.parse s).toOption

/-- Lower-case hexadecimal digits. -/
def isLowerHex (c : Char) : Bool := Json.isDigit c || ('a' ≤ c && c ≤ 'f')

/-- Groups of 8, 4, 4, 4 and 12 hexadecimal digits; the third one starts with a version from 1
to 5. -/
def isUuid (s : List Char) : Bool :=
  match Text.splitAll '-' s with
  | [a, b, c, d, e] =>
    [a, b, c, d, e].all (·.all isLowerHex) && [a, b, c, d, e].map (·.length) == [8, 4, 4, 4, 12] &&
      c.head?.any fun v => '1' ≤ v && v ≤ '5'
  | _ => false

/-- A tilde is followed by `0` or `1`. -/
def tildesEscape : List Char → Bool
  | [] => true
  | '~' :: '0' :: rest => tildesEscape rest
  | '~' :: '1' :: rest => tildesEscape rest
  | '~' :: _ => false
  | _ :: rest => tildesEscape rest

/-- A pointer is empty or starts with a slash. -/
def isPointer (s : List Char) : Bool := (s.isEmpty || s.head? == some '/') && tildesEscape s

/-- A number of levels without leading zeros, then `#` or a pointer. -/
def isRelativePointer (s : List Char) : Bool :=
  let digits := s.takeWhile Json.isDigit
  let rest := s.dropWhile Json.isDigit
  !digits.isEmpty && (digits.length == 1 || digits.head? != some '0') &&
    (rest == ['#'] || isPointer rest)

/-- Whether a text follows the format. -/
def admits (f : Format) (s : String) : Bool :=
  let cs := s.toList
  match f with
  | date => isDate cs
  | time => isTime cs
  | dateTime => isDateTime cs
  | hostname => isHostname cs
  | email => isMailbox cs
  | ipv4 => isAddress cs && cs.contains '.'
  | ipv6 => isAddress cs && cs.contains ':'
  | uri => (reference? s).any fun u => !u.scheme.isEmpty
  | uriReference => (reference? s).isSome
  | uriTemplate => (reference? s).any fun u => bracesClose false u.pathText.toList
  | uuid => isUuid cs
  | regex => (Pattern.parse? s).isSome
  | pointer => isPointer cs
  | relativePointer => isRelativePointer cs

end Format

end SchemaKit
