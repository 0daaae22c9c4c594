import SchemaKit.Diff.Align
import SchemaKit.Diff.Tidy

/-!
# Differences on a terminal

## Main definitions

* `colored` — a difference with deletions in red and insertions in green.
* `between` — the difference between two texts.
-/

namespace SchemaKit.Diff

/-- Text in a color. -/
def inColor (code : String) (text : List UInt8) : List UInt8 :=
  ("\x1b[" ++ code ++ "m").toUTF8.toList ++ text ++ "\x1b[0m".toUTF8.toList

/-- A chunk in its color. -/
def Chunk.colored (c : Chunk UInt8) : List UInt8 :=
  match c.action with
  | .keep => c.text
  | .delete => inColor "31" c.text
  | .insert => inColor "32" c.text

/-- A difference with deletions in red and insertions in green. -/
def colored (chunks : List (Chunk UInt8)) : String :=
  String.ofList (Text.decode (chunks.flatMap Chunk.colored))

/-- The difference between two texts, for a terminal. -/
def between (old new : String) : String := colored (tidy (align old new))

end SchemaKit.Diff
