/-!
# Characters in a sequence of bytes

Texts reach the library as bytes. A well-formed UTF-8 sequence stands for its character; a byte
that belongs to no such sequence is *stray*. Readers see a stray byte as the replacement character
`U+FFFD`, one for each byte, while quoted messages show its value.

## Main definitions

* `Piece` — a character or a stray byte.
* `pieces` — the decomposition of a byte sequence.
* `decode` — the characters that readers see.
-/

namespace SchemaKit.Text

/-- A unit of a byte sequence: a character, or a byte that is part of none. -/
inductive Piece where
  | char (c : Char)
  | stray (b : UInt8)
  deriving DecidableEq, Repr

/-- A continuation byte, `10xxxxxx`. -/
def isContinuation (b : UInt8) : Bool := 0x80 ≤ b && b ≤ 0xBF

/-- The first two bytes of a two-byte sequence. -/
def leadsTwo (a b : UInt8) : Bool := 0xC2 ≤ a && a ≤ 0xDF && isContinuation b

/-- The first two bytes of a three-byte sequence: no overlong form and no surrogate. -/
def leadsThree (a b : UInt8) : Bool :=
  (a == 0xE0 && 0xA0 ≤ b && b ≤ 0xBF) || (a == 0xED && 0x80 ≤ b && b ≤ 0x9F) ||
    (0xE1 ≤ a && a ≤ 0xEF && a != 0xED && isContinuation b)

/-- The first two bytes of a four-byte sequence: no overlong form and nothing above `U+10FFFF`. -/
def leadsFour (a b : UInt8) : Bool :=
  (a == 0xF0 && 0x90 ≤ b && b ≤ 0xBF) || (a == 0xF4 && 0x80 ≤ b && b ≤ 0x8F) ||
    (0xF1 ≤ a && a ≤ 0xF3 && isContinuation b)

/-- The six payload bits of a continuation byte. -/
def payload (b : UInt8) : Nat := b.toNat % 64

/-- The character of a two-byte sequence. -/
def joinTwo (a b : UInt8) : Char := Char.ofNat (a.toNat % 32 * 64 + payload b)

/-- The character of a three-byte sequence. -/
def joinThree (a b c : UInt8) : Char :=
  Char.ofNat (a.toNat % 16 * 4096 + payload b * 64 + payload c)

/-- The character of a four-byte sequence. -/
def joinFour (a b c d : UInt8) : Char :=
  Char.ofNat (a.toNat % 8 * 262144 + payload b * 4096 + payload c * 64 + payload d)

/-- The character that starts at the byte `a` with `rest` behind it, and how many bytes of `rest`
belong to it. -/
def charAt? (a : UInt8) (rest : List UInt8) : Option (Char × Nat) :=
  if a < 0x80 then some (Char.ofNat a.toNat, 0)
  else match rest with
    | [] => none
    | [b] => if leadsTwo a b then some (joinTwo a b, 1) else none
    | [b, c] =>
      if leadsTwo a b then some (joinTwo a b, 1)
      else if leadsThree a b && isContinuation c then some (joinThree a b c, 2) else none
    | b :: c :: d :: _ =>
      if leadsTwo a b then some (joinTwo a b, 1)
      else if leadsThree a b && isContinuation c then some (joinThree a b c, 2)
      else if leadsFour a b && isContinuation c && isContinuation d then
        some (joinFour a b c d, 3)
      else none

/-- The pieces of what follows the next `skip` bytes. -/
def piecesAfter : (skip : Nat) → List UInt8 → List Piece
  | _, [] => []
  | skip + 1, _ :: rest => piecesAfter skip rest
  | 0, a :: rest =>
    match charAt? a rest with
    | some (c, n) => .char c :: piecesAfter n rest
    | none => .stray a :: piecesAfter 0 rest

/-- Splits bytes into characters and stray bytes. A sequence that breaks off leaves its first byte
stray, and decoding goes on with the next byte. -/
def pieces (bytes : List UInt8) : List Piece := piecesAfter 0 bytes

/-- The replacement character. -/
def replacement : Char := '\uFFFD'

/-- What readers see of a piece. -/
def Piece.seen : Piece → Char
  | .char c => c
  | .stray _ => replacement

/-- Whether a piece is a character. -/
def Piece.isChar : Piece → Bool
  | .char _ => true
  | .stray _ => false

/-- The characters of a byte sequence, `U+FFFD` for each stray byte. -/
def decode (bytes : List UInt8) : List Char := (pieces bytes).map Piece.seen

/-- The pieces of a text without stray bytes. -/
def piecesOf (s : String) : List Piece := s.toList.map .char

end SchemaKit.Text
