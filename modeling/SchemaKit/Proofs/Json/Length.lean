import SchemaKit.Proofs.Json.RoundTrip

/-!
# The length of texts

Every value takes room in the text that it is written into, and so does every member of an object. So an
object with fewer members has a shorter text.

## Main results

* `SchemaKit.Json.length_compactMembers_add_le_of_sublist` — fewer members take less room.
-/

namespace SchemaKit

namespace Json

/-- A value in compact form takes at least no room. -/
lemma length_le_compactOn (v : Json) (tail : List Char) :
    tail.length ≤ (compactOn v tail).length := by
  have happend := compactOn_append v [] tail
  rw [List.nil_append] at happend
  rw [happend, List.length_append]
  omega

/-- A quoted string takes room. -/
lemma length_lt_quoted (s : String) (tail : List Char) :
    tail.length < (quoted s tail).length := by
  have happend := quoted_append s [] tail
  rw [List.nil_append] at happend
  rw [happend, List.length_append, quoted, List.length_cons]
  omega

section

variable {members rest : List (String × Json)} {m : String × Json} (more : Bool) (tail : List Char)

/-- A comma in front takes room. -/
lemma length_compactMembers_le_true :
    (compactMembers members more tail).length ≤ (compactMembers members true tail).length := by
  cases members with
  | nil => rw [compactMembers, compactMembers]
  | cons m rest =>
    cases more with
    | true => exact le_rfl
    | false =>
      simp only [compactMembers, Bool.false_eq_true, if_false, if_true, List.length_cons]
      omega

/-- A member takes room.

**Proof sketch.** A member takes at least the two quotes of its name, and the value in front of a
text does not make it shorter. -/
lemma length_compactMembers_lt_cons :
    (compactMembers rest true tail).length < (compactMembers (m :: rest) more tail).length := by
  obtain ⟨k, v⟩ := m
  have hvalue := length_le_compactOn v (compactMembers rest true tail)
  have hname := length_lt_quoted k (':' :: compactOn v (compactMembers rest true tail))
  rw [List.length_cons] at hname
  cases more with
  | true =>
    simp only [compactMembers, if_true, List.length_cons]
    omega
  | false =>
    simp only [compactMembers, Bool.false_eq_true, if_false]
    omega

/-- **Fewer members take less room**: at least one character for each member that is left out.

**Proof sketch.** Induction on how the one list is a part of the other. A member that is left out
takes room by `length_compactMembers_lt_cons`. A member on both sides takes the same room in front
of both rests. -/
lemma length_compactMembers_add_le_of_sublist (h : rest.Sublist members) :
    (compactMembers rest more tail).length + (members.length - rest.length) ≤
      (compactMembers members more tail).length := by
  induction h generalizing more with
  | slnil => simp
  | @cons kept members m hsub ih =>
    have hkept : (compactMembers kept more tail).length ≤ (compactMembers kept true tail).length :=
      length_compactMembers_le_true more tail
    have hmember : (compactMembers members true tail).length <
        (compactMembers (m :: members) more tail).length := length_compactMembers_lt_cons more tail
    have hrest := ih true
    have hlength := hsub.length_le
    rw [List.length_cons]
    omega
  | @cons_cons kept members m _ ih =>
    obtain ⟨k, v⟩ := m
    -- the member in front takes the same room on both sides
    have hroom : ∀ tail, (quoted k (':' :: compactOn v tail)).length =
        (quoted k (':' :: compactOn v [])).length + tail.length := by
      intro tail
      rw [← List.length_append, ← quoted_append, List.cons_append, ← compactOn_append,
        List.nil_append]
    have hkept := hroom (compactMembers kept true tail)
    have hmembers := hroom (compactMembers members true tail)
    have hrest := ih true
    cases more with
    | true =>
      simp only [compactMembers, if_true, List.length_cons]
      omega
    | false =>
      simp only [compactMembers, Bool.false_eq_true, if_false, List.length_cons]
      omega

end

end Json

end SchemaKit
