import SchemaKit.Json.Reader
import SchemaKit.Text.Quoted
import SchemaKit.Text.Split

/-!
# Percent escapes

Components of a resource identifier write bytes that they cannot hold as a percent sign with two
hexadecimal digits. Which bytes that are depends on the component.

## Main definitions

* `Component` — the components that have their own rules.
* `mustEscape` — whether a byte needs an escape.
* `unescape`, `escape` — from written text to bytes and back.
* `isEscaped` — whether a text may stand as it is.
-/

namespace SchemaKit.Uri

/-- A component of a resource identifier. -/
inductive Component where
  | path
  | fragment
  | user
  | host
  | zone
  deriving DecidableEq

/-- What can be wrong with a resource identifier. -/
inductive Fault where
  | controlCharacter
  | missingScheme
  | colonInFirstSegment
  | missingBracket
  | badPort (text : List Char)
  | badEscape (bytes : List UInt8)
  | badHostCharacter (c : Char)
  | badUser

/-- The wording of a fault. -/
def Fault.message : Fault → String
  | .controlCharacter => "net/url: invalid control character in URL"
  | .missingScheme => "missing protocol scheme"
  | .colonInFirstSegment => "first path segment in URL cannot contain colon"
  | .missingBracket => "missing ']' in host"
  | .badPort text => "invalid port " ++ Text.quote (String.ofList text) ++ " after host"
  | .badEscape bytes => "invalid URL escape " ++ Text.quotePieces (Text.pieces bytes)
  | .badHostCharacter c =>
    "invalid character " ++ Text.quote (String.ofList [c]) ++ " in host name"
  | .badUser => "net/url: invalid userinfo"

/-- ASCII letters and digits. -/
def isAlphanumeric (c : Char) : Bool :=
  ('a' ≤ c && c ≤ 'z') || ('A' ≤ c && c ≤ 'Z') || ('0' ≤ c && c ≤ '9')

/-- Whether a character needs an escape in a component. -/
def mustEscape (k : Component) (c : Char) : Bool :=
  if isAlphanumeric c then false
  else if (k = .host || k = .zone) && "!$&'()*+,;=:[]<>\"".toList.contains c then false
  else if "-_.~".toList.contains c then false
  else if "$&+,/:;=?@".toList.contains c then
    match k with
    | .path => c == '?'
    | .user => c == '@' || c == '/' || c == '?' || c == ':'
    | .fragment => false
    | .host | .zone => true
  else if k = .fragment && "!()*".toList.contains c then false
  else true

/-- The bytes of a text. -/
def bytesOf (s : List Char) : List UInt8 := s.flatMap String.utf8EncodeChar

/-- The bytes that a component stands for. In a host only bytes above `7F` and the percent sign
may be escaped, in a zone nothing that needs no escape. -/
def unescape (k : Component) : List Char → Except Fault (List UInt8)
  | [] => .ok []
  | '%' :: a :: b :: rest =>
    match Text.hexValue? a, Text.hexValue? b with
    | some x, some y =>
      let byte := 16 * x + y
      if (k = .host && x < 8 && byte != 37) ||
          (k = .zone && byte != 37 && byte != 32 && mustEscape .host (Char.ofNat byte)) then
        .error (.badEscape (bytesOf ['%', a, b]))
      else (unescape k rest).map (UInt8.ofNat byte :: ·)
    | _, _ => .error (.badEscape ((bytesOf ('%' :: a :: b :: rest)).take 3))
  | '%' :: rest => .error (.badEscape ((bytesOf ('%' :: rest)).take 3))
  | c :: rest =>
    if (k = .host || k = .zone) && c.toNat < 128 && mustEscape k c then
      .error (.badHostCharacter c)
    else (unescape k rest).map (String.utf8EncodeChar c ++ ·)

/-- An upper-case hexadecimal digit. -/
def hexDigit (n : Nat) : Char := if n < 10 then Char.ofNat (48 + n) else Char.ofNat (55 + n)

/-- Bytes as a component. -/
def escape (k : Component) (bytes : List UInt8) : List Char :=
  bytes.flatMap fun b =>
    let c := Char.ofNat b.toNat
    if b < 128 && !mustEscape k c then [c]
    else ['%', hexDigit (b.toNat / 16), hexDigit (b.toNat % 16)]

/-- Whether a text may stand in a component as it is. -/
def isEscaped (k : Component) (s : List Char) : Bool :=
  s.all fun c => "!$&'()*+,;=:@[]%".toList.contains c || (c.toNat < 128 && !mustEscape k c)

/-- The written form of a component: as it was given, if it may stand so. -/
def written (k : Component) (s : List Char) : List Char :=
  if isEscaped k s then s
  else match unescape k s with
    | .ok bytes => escape k bytes
    | .error _ => s

end SchemaKit.Uri
