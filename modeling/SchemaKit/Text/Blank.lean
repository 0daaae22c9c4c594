/-!
# Blanks

## Main definitions

* `isBlank` — white space of any script.
* `isAllBlank` — whether a text is nothing but white space.
* `trim` — a text without some characters at its ends.
-/

namespace SchemaKit.Text

/-- White space of any script, line ends included. -/
def isBlank (c : Char) : Bool :=
  let n := c.toNat
  (9 ≤ n && n ≤ 13) || n = 32 || n = 0x85 || n = 0xA0 || n = 0x1680 || (0x2000 ≤ n && n ≤ 0x200A) ||
    n = 0x2028 || n = 0x2029 || n = 0x202F || n = 0x205F || n = 0x3000

/-- Whether a text is nothing but white space. -/
def isAllBlank (s : String) : Bool := s.toList.all isBlank

/-- A text without characters of a class at its end. -/
def trimRight (p : Char → Bool) (s : List Char) : List Char := (s.reverse.dropWhile p).reverse

/-- A text without characters of a class at its ends. -/
def trim (p : Char → Bool) (s : List Char) : List Char := trimRight p (s.dropWhile p)

end SchemaKit.Text
