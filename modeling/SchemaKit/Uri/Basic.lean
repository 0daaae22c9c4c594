import SchemaKit.Uri.Escape
import SchemaKit.Text.Letter

/-!
# Resource identifiers

Identifiers are taken apart into scheme, authority, path, query and fragment, put together again,
and resolved against a base.

## Main definitions

* `Uri` — an identifier in parts.
* `Uri.parse` — takes a text apart, or says what is wrong with it.
* `Uri.text` — puts the parts together.
* `Uri.resolve` — a reference seen from a base.
* `Uri.fragmentText` — the fragment with its escapes read.
-/

namespace SchemaKit

/-- A resource identifier. Path, user and fragment are kept as they are written; a `rootless`
remainder follows a scheme without a slash. -/
structure Uri where
  scheme : List Char
  rootless : List Char
  user : Option (List Char × Option (List Char))
  host : List Char
  path : List Char
  omitHost : Bool
  forceQuery : Bool
  query : List Char
  fragment : List Char
  deriving DecidableEq

namespace Uri

/-- The empty reference. -/
def empty : Uri := ⟨[], [], none, [], [], false, false, [], []⟩

/-- A text that is no identifier, with what is wrong. -/
structure ParseFault where
  text : String
  fault : Fault

/-- The wording of a parse fault. -/
def ParseFault.message (f : ParseFault) : String :=
  "parse " ++ Text.quote f.text ++ ": " ++ f.fault.message

/-- A scheme runs up to the first colon and starts with a letter. -/
def splitScheme (s : List Char) : Except Fault (List Char × List Char) :=
  go [] s
where
  /-- `seen` holds the characters before in reverse order. -/
  go (seen : List Char) : List Char → Except Fault (List Char × List Char)
    | [] => .ok ([], s)
    | c :: rest =>
      if ('a' ≤ c && c ≤ 'z') || ('A' ≤ c && c ≤ 'Z') then go (c :: seen) rest
      else if Json.isDigit c || c == '+' || c == '-' || c == '.' then
        if seen.isEmpty then .ok ([], s) else go (c :: seen) rest
      else if c == ':' then
        if seen.isEmpty then .error .missingScheme else .ok (seen.reverse, rest)
      else .ok ([], s)

/-- What stands behind a host: nothing, or a colon with digits. -/
def isPort : List Char → Bool
  | [] => true
  | ':' :: digits => digits.all Json.isDigit
  | _ => false

/-- The position of a text in another one, as what stands before and from there on. -/
def splitAt? (part : List Char) : List Char → Option (List Char × List Char)
  | [] => none
  | c :: rest =>
    if Text.startsWith part (c :: rest) then some ([], c :: rest)
    else (splitAt? part rest).map fun (before, from_) => (c :: before, from_)

/-- Checks a host and reads its escapes. -/
def readHost (s : List Char) : Except Fault (List UInt8) :=
  match s with
  | '[' :: _ =>
    match Text.cutLast ']' s with
    | none => .error .missingBracket
    | some (inside, behind) =>
      if !isPort behind then .error (.badPort behind)
      else match splitAt? ['%', '2', '5'] inside with
        | some (address, zone) => do
          let a ← unescape .host address
          let z ← unescape .zone zone
          let p ← unescape .host (']' :: behind)
          return a ++ z ++ p
        | none => unescape .host s
  | _ =>
    match Text.cutLast ':' s with
    | some (_, digits) =>
      if isPort (':' :: digits) then unescape .host s else .error (.badPort (':' :: digits))
    | none => unescape .host s

/-- Characters of the part before `@`. -/
def isUserChar (c : Char) : Bool := isAlphanumeric c || "-._:~!$&'()*+,;=%@".toList.contains c

/-- Checks the part before `@`. -/
def readUser (s : List Char) : Except Fault (List Char × Option (List Char)) :=
  if !s.all isUserChar then .error .badUser
  else match Text.cut ':' s with
    | none => (unescape .user s).map fun b => (escape .user b, none)
    | some (name, secret) => do
      let n ← unescape .user name
      let p ← unescape .user secret
      return (escape .user n, some (escape .user p))

/-- Takes an identifier without fragment apart. -/
def parseBody (s : List Char) : Except Fault Uri := do
  if s.any (fun c => c.toNat < 32 || c.toNat = 127) then throw .controlCharacter
  if s = ['*'] then return { empty with path := s }
  let (scheme, rest) ← splitScheme s
  let scheme := scheme.map Text.toLower
  let (rest, query, force) := match Text.cut '?' rest with
    | some (before, []) => (before, [], true)
    | some (before, q) => (before, q, false)
    | none => (rest, [], false)
  let base := { empty with scheme := scheme, query := query, forceQuery := force }
  if rest.head? != some '/' then
    if !scheme.isEmpty then return { base with rootless := rest }
    if (Text.upTo '/' rest).contains ':' then throw .colonInFirstSegment
  let (base, rest) ←
    if (!scheme.isEmpty || !Text.startsWith ['/', '/', '/'] rest) &&
        Text.startsWith ['/', '/'] rest then do
      let authority := Text.upTo '/' (rest.drop 2)
      let (user, host) := match Text.cutLast '@' authority with
        | some (u, h) => (some u, h)
        | none => (none, authority)
      let host ← readHost host
      let user ← user.mapM readUser
      pure ({ base with user := user, host := escape .host host }, rest.drop (2 + authority.length))
    else pure ({ base with omitHost := !scheme.isEmpty && rest.head? == some '/' }, rest)
  let _ ← unescape .path rest
  return { base with path := rest }

/-- Takes an identifier apart. -/
def parse (text : String) : Except ParseFault Uri :=
  let s := text.toList
  match Text.cut '#' s with
  | none => (parseBody s).mapError (⟨text, ·⟩)
  | some (body, fragment) => do
    let uri ← (parseBody body).mapError (⟨String.ofList body, ·⟩)
    let _ ← (unescape .fragment fragment).mapError (⟨text, ·⟩)
    return { uri with fragment := fragment }

/-- The path in its written form. -/
def writtenPath (u : Uri) : List Char := written .path u.path

/-- The authority with its two slashes, if it is written. -/
def authorityText (u : Uri) : List Char :=
  if u.scheme.isEmpty && u.host.isEmpty && u.user.isNone then []
  else if u.omitHost && u.host.isEmpty && u.user.isNone then []
  else
    (if !u.host.isEmpty || !u.path.isEmpty || u.user.isSome then ['/', '/'] else []) ++
      (match u.user with
        | none => []
        | some (name, none) => name ++ ['@']
        | some (name, some secret) => name ++ ':' :: secret ++ ['@']) ++
      u.host

/-- Scheme, authority and path. -/
def frontText (u : Uri) : List Char :=
  let scheme := if u.scheme.isEmpty then [] else u.scheme ++ [':']
  if !u.rootless.isEmpty then scheme ++ u.rootless
  else
    let front := scheme ++ u.authorityText
    let path := u.writtenPath
    let front :=
      if !path.isEmpty && path.head? != some '/' && !u.host.isEmpty then front ++ ['/'] else front
    if front.isEmpty && (Text.upTo '/' path).contains ':' then '.' :: '/' :: path
    else front ++ path

/-- The identifier as text. -/
def text (u : Uri) : String :=
  String.ofList (u.frontText ++
    (if u.forceQuery || !u.query.isEmpty then '?' :: u.query else []) ++
    (if u.fragment.isEmpty then [] else '#' :: written .fragment u.fragment))

/-- The fragment with its escapes read. -/
def fragmentText (u : Uri) : String :=
  match unescape .fragment u.fragment with
  | .ok bytes => String.ofList (Text.decode bytes)
  | .error _ => String.ofList u.fragment

/-- The path with its escapes read. -/
def pathText (u : Uri) : String :=
  match unescape .path u.path with
  | .ok bytes => String.ofList (Text.decode bytes)
  | .error _ => String.ofList u.path

/-- Removes dot segments: the segments kept so far are in reverse order. A dot segment at the end
leaves an empty one. -/
def walk : (kept : List (List Char)) → List (List Char) → List (List Char)
  | kept, [] => kept.reverse
  | kept, seg :: rest =>
    if seg = ['.'] then
      if rest.isEmpty then ([] :: kept).reverse else walk kept rest
    else if seg = ['.', '.'] then
      if rest.isEmpty then ([] :: kept.drop 1).reverse else walk (kept.drop 1) rest
    else walk (seg :: kept) rest

/-- A path seen from a base path, without dot segments. -/
def resolvePath (base ref : List Char) : List Char :=
  let full :=
    if ref.isEmpty then base
    else if ref.head? != some '/' then
      (match Text.cutLast '/' base with
        | some (before, _) => before ++ ['/']
        | none => []) ++ ref
    else ref
  if full.isEmpty then []
  else
    let kept := Text.joinWith ['/'] (walk [] (Text.splitAll '/' full))
    if kept.head? = some '/' then kept else '/' :: kept

/-- A reference seen from a base. -/
def resolve (base ref : Uri) : Uri :=
  let scheme := if ref.scheme.isEmpty then base.scheme else ref.scheme
  if !ref.scheme.isEmpty || !ref.host.isEmpty || ref.user.isSome then
    { ref with scheme := scheme, path := resolvePath ref.writtenPath [] }
  else if !ref.rootless.isEmpty then
    { ref with scheme := scheme, user := none, host := [], path := [] }
  else
    let bare := ref.path.isEmpty && !ref.forceQuery && ref.query.isEmpty
    let query := if bare then base.query else ref.query
    let fragment := if bare && ref.fragment.isEmpty then base.fragment else ref.fragment
    if ref.path.isEmpty && !base.rootless.isEmpty then
      { ref with scheme := scheme, query := query, fragment := fragment, rootless := base.rootless,
                 user := none, host := [], path := [] }
    else
      { ref with scheme := scheme, query := query, fragment := fragment, host := base.host,
                 user := base.user, path := resolvePath base.writtenPath ref.writtenPath }

end Uri

end SchemaKit
