import SchemaKit.Json.Reader
import SchemaKit.Text.Letter

/-!
# Reading records

A record is read from an object member by member. Members match a field by name up to case; of
several members for one field each is read in turn, and the last one has the last word. A member of
the wrong kind leaves the field as it is and spoils the reading, but the other fields are still set.

## Main definitions

* `fieldsNamed` — the members that match a field.
* `Progress` — what has been read, and whether everything fitted.
* `readField` — reads all members of a field.
* `readInt`, `readText`, `readOptional` — the effect of one member on an integer, a text, or a text
  that may be absent.
-/

namespace SchemaKit.Json

/-- The values of the members whose names equal `name` up to case, in order. -/
def fieldsNamed (members : List (String × Json)) (name : String) : List Json :=
  (members.filter fun m => Text.equalFold m.1 name).map (·.2)

/-- A field's value so far, and whether all its members fitted. -/
structure Progress (α : Type) where
  value : α
  fits : Bool

/-- Reads the members of a field one after the other. -/
def readField {α : Type} (step : α → Json → Progress α) (start : α) (vs : List Json) :
    Progress α :=
  vs.foldl (fun p v => let q := step p.value v; ⟨q.value, p.fits && q.fits⟩) ⟨start, true⟩

/-- The last member of a field has the last word. -/
theorem readField_concat {α : Type} (step : α → Json → Progress α) (start : α) (vs : List Json)
    (v : Json) :
    readField step start (vs ++ [v]) =
      ⟨(step (readField step start vs).value v).value,
        (readField step start vs).fits && (step (readField step start vs).value v).fits⟩ := by
  rw [readField, List.foldl_append]
  rfl

/-- A plain integer literal in the 64-bit range; null changes nothing. -/
def readInt (old : Int) (v : Json) : Progress Int :=
  match v with
  | .null => ⟨old, true⟩
  | .num n =>
    match n.int64? with
    | some i => ⟨i, true⟩
    | none => ⟨old, false⟩
  | _ => ⟨old, false⟩

/-- A text; null changes nothing. -/
def readText (old : String) (v : Json) : Progress String :=
  match v with
  | .null => ⟨old, true⟩
  | .str s => ⟨s, true⟩
  | _ => ⟨old, false⟩

/-- A text that may be absent; null removes it. A value of another kind makes it present but leaves
its text. -/
def readOptional (old : Option String) (v : Json) : Progress (Option String) :=
  match v with
  | .null => ⟨none, true⟩
  | .str s => ⟨some s, true⟩
  | _ => ⟨some (old.getD ""), false⟩

end SchemaKit.Json
