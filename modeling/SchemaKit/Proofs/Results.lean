import Mathlib.Tactic.Common

/-!
# Results of several steps

A step that may be refused is followed by another one that goes on with what the first one gave. The
whole succeeds iff both steps do, one with what the other one gave.

## Main results

* `SchemaKit.bind_eq_ok_iff` — when two steps after each other succeed.
* `SchemaKit.map_eq_ok_iff` — the same if the second step is never refused.
-/

namespace SchemaKit

variable {ε α β : Type} {x : Except ε α}

/-- Two steps after each other succeed iff the first one does and the second one does with what the
first one gave. -/
lemma bind_eq_ok_iff {f : α → Except ε β} {y : β} :
    x >>= f = .ok y ↔ ∃ a, x = .ok a ∧ f a = .ok y := by
  cases x with
  | error d =>
    constructor
    · rintro ⟨⟩
    · rintro ⟨a, ⟨⟩, -⟩
  | ok a =>
    constructor
    · exact fun h => ⟨a, rfl, h⟩
    · rintro ⟨b, hb, h⟩
      obtain rfl : a = b := Except.ok.inj hb
      exact h

/-- A step whose outcome is changed succeeds iff the step does. -/
lemma map_eq_ok_iff {f : α → β} {y : β} : x.map f = .ok y ↔ ∃ a, x = .ok a ∧ f a = y := by
  cases x with
  | error d =>
    constructor
    · rintro ⟨⟩
    · rintro ⟨a, ⟨⟩, -⟩
  | ok a =>
    constructor
    · exact fun h => ⟨a, rfl, Except.ok.inj h⟩
    · rintro ⟨b, hb, h⟩
      obtain rfl : a = b := Except.ok.inj hb
      exact congrArg Except.ok h

end SchemaKit
