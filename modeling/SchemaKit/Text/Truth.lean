/-!
# Truth values in settings

## Main definitions

* `truth?` — the truth value that a text means.
-/

namespace SchemaKit.Text

/-- The texts that mean true. -/
def trueTexts : List String := ["1", "t", "T", "TRUE", "true", "True"]

/-- The texts that mean false. -/
def falseTexts : List String := ["0", "f", "F", "FALSE", "false", "False"]

/-- The truth value that a text means. -/
def truth? (s : String) : Option Bool :=
  if trueTexts.contains s then some true
  else if falseTexts.contains s then some false
  else none

end SchemaKit.Text
