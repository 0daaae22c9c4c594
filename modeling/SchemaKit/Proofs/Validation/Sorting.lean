import Mathlib.Data.List.Sort
import Mathlib.Data.Prod.Lex
import SchemaKit.Proofs.Text.Bytes
import SchemaKit.Validation.Report

/-!
# The order of violations

A report lists its violations in the order of their messages. Nothing is lost or added by that, and its
text does not depend on the order in which they were found, nor on what becomes of violations with equal
messages.

## Main definitions

* `SchemaKit.Validation.Report.ofFaults` — the report about faults.
* `SchemaKit.Validation.Violation.Sorts` — a list is another one in the order of messages.

## Main results

* `SchemaKit.Validation.Violation.sorts_sort` — sorting brings messages into the order of their bytes.
* `SchemaKit.Validation.Violation.Sorts.messages_eq` — the order of the messages is determined.
* `SchemaKit.Validation.Report.text_of_sorts` — reports are sorted, and their texts are determined.
* `SchemaKit.Validation.Failure.report?_eq_some_iff` — reports are found behind any words.
-/

namespace SchemaKit.Validation

/-! ## Sorting -/

namespace Violation

/-- A list is another one in the order of the bytes of messages. In what order violations with equal
messages stand is left open. -/
def Sorts (found listed : List Violation) : Prop :=
  listed.Perm found ∧ listed.Pairwise fun a b => Text.bytes a.message ≤ Text.bytes b.message

/-- What decides about the place of a violation in a report. -/
def key (v : Violation) : String ×ₗ String ×ₗ String :=
  toLex (v.message, toLex (v.field, v.detailsText))

/-- The order of reports is that of the keys. -/
lemma le_iff {a b : Violation} : le a b = true ↔ key a ≤ key b := by
  rw [key, key, Prod.Lex.toLex_le_toLex, Prod.Lex.toLex_le_toLex, le]
  by_cases hmessage : a.message = b.message
  · by_cases hfield : a.field = b.field
    · simp [hmessage, hfield]
    · simp [hmessage, hfield]
  · simp [hmessage]

/-- Messages in the order of reports are in the order of their bytes. -/
lemma bytes_message_le {a b : Violation} (h : le a b = true) :
    Text.bytes a.message ≤ Text.bytes b.message := by
  have hmessage : a.message ≤ b.message := by
    rcases Prod.Lex.toLex_le_toLex.1 (le_iff.1 h) with hlt | ⟨heq, -⟩
    · exact hlt.le
    · exact heq.le
  exact fun hlt => hmessage.not_gt (Text.bytes_lt_iff.1 hlt)

/-- **Sorting brings messages into the order of their bytes**, and loses nothing. -/
theorem sorts_sort (found : List Violation) : Sorts found (sort found) := by
  have htrans : ∀ a b c : Violation, le a b = true → le b c = true → le a c = true :=
    fun _ _ _ hab hbc => le_iff.2 ((le_iff.1 hab).trans (le_iff.1 hbc))
  have htotal : ∀ a b : Violation, (le a b || le b a) = true :=
    fun a b => Bool.or_eq_true_iff.2 ((le_total (key a) (key b)).imp le_iff.2 le_iff.2)
  have hsorted : (sort found).Pairwise fun a b => le a b = true :=
    List.pairwise_mergeSort htrans htotal found
  exact ⟨List.mergeSort_perm found le, hsorted.imp bytes_message_le⟩

/-- **The order of the messages is determined** by what was found, in whatever order.

**Proof sketch.** Both lists of messages are in ascending order, and one is a permutation of the
other. An order of texts by their bytes is a total one, so the lists are equal. -/
theorem Sorts.messages_eq {found found' listed listed' : List Violation} (h : Sorts found listed)
    (h' : Sorts found' listed') (hperm : found.Perm found') :
    listed.map (·.message) = listed'.map (·.message) := by
  have hmessages : (listed.map (·.message)).Perm (listed'.map (·.message)) :=
    ((h.1.trans hperm).trans h'.1.symm).map _
  have hasc : ∀ {found listed : List Violation}, Sorts found listed →
      (listed.map (·.message)).Pairwise fun s t => Text.bytes s ≤ Text.bytes t :=
    fun h => List.pairwise_map.2 h.2
  refine hmessages.eq_of_pairwise ?_ (hasc h) (hasc h')
  intro s t _ _ hst hts
  exact le_antisymm (not_lt.1 fun hlt => hst (Text.bytes_lt_iff.2 hlt))
    (not_lt.1 fun hlt => hts (Text.bytes_lt_iff.2 hlt))

/-- A violation that is no more than its message. -/
def ofMessage (message : String) : Violation := ⟨"", message, []⟩

end Violation

/-! ## Reports -/

namespace Report

open Violation (Sorts ofMessage)

/-- The violations that faults are reported as. Faults of combined schemas are left out. -/
def converted (faults : List Fault) : List Violation :=
  (faults.filter fun f => !f.cause.isCombined).map Fault.violation

/-- The report about faults. -/
def ofFaults (entity : String) (faults : List Fault) : Report :=
  ⟨entity, Violation.sort (converted faults)⟩

/-- The text of a report depends on its messages alone. -/
lemma text_eq {r r' : Report} (hentity : r.entity = r'.entity)
    (hmessages : r.violations.map (·.message) = r'.violations.map (·.message)) :
    r.text = r'.text := by
  rw [text, text, hentity, hmessages]

/-- **Reports are sorted without loss, and their texts are determined.** A document is reported with the
faults that its check found, apart from those of combined schemas, in the order of messages; so is a
report of plain messages. The text is the same in whatever order the faults or messages are given, and
whatever the sort does with equal messages. Sorting once more keeps the sequence of messages.

**Proof sketch.** The first part holds by definition. The second and third ones say that the
violations are sorted, which is `sorts_sort`, and that the text depends on the sequence of messages
only, which is determined by `messages_eq`. -/
theorem text_of_sorts (entity : String) :
    (∀ (c : Compiled) (doc : Json),
      (⟨entity, c.violations doc⟩ : Report) = ofFaults entity (c.tally doc).faults) ∧
    (∀ faults, Sorts (converted faults) (ofFaults entity faults).violations ∧
      ∀ faults' listed, faults.Perm faults' → Sorts (converted faults') listed →
        (⟨entity, listed⟩ : Report).text = (ofFaults entity faults).text) ∧
    (∀ messages, Sorts (messages.map ofMessage) (ofMessages entity messages).violations ∧
      ∀ messages' listed, messages.Perm messages' → Sorts (messages'.map ofMessage) listed →
        (⟨entity, listed⟩ : Report).text = (ofMessages entity messages).text) ∧
    ∀ found listed again, Sorts found listed → Sorts listed again →
      again.map (·.message) = listed.map (·.message) := by
  refine ⟨fun c doc => rfl, fun faults => ?_, fun messages => ?_, ?_⟩
  · have hsorts : Sorts (converted faults) (ofFaults entity faults).violations :=
      Violation.sorts_sort (converted faults)
    refine ⟨hsorts, fun faults' listed hperm hlisted => text_eq rfl ?_⟩
    have hconverted : (converted faults').Perm (converted faults) :=
      ((hperm.symm.filter _).map _)
    exact hlisted.messages_eq hsorts hconverted
  · have hsorts : Sorts (messages.map ofMessage) (ofMessages entity messages).violations :=
      Violation.sorts_sort (messages.map ofMessage)
    refine ⟨hsorts, fun messages' listed hperm hlisted => text_eq rfl ?_⟩
    exact hlisted.messages_eq hsorts (hperm.symm.map _)
  · intro found listed again hlisted hagain
    exact hagain.messages_eq hlisted hlisted.1

end Report

/-! ## Reports inside other errors -/

/-- **A report is found in an error** iff the error is the report, with any words in front of it. So the
report that is found does not depend on what was said about it on the way.

**Proof sketch.** By induction on the error: each wrapping puts one more text in front. -/
theorem Failure.report?_eq_some_iff {f : Failure} {r : Report} :
    f.report? = some r ↔ ∃ words : List String, f = words.foldr .wrapped (.report r) := by
  induction f with
  | report r' =>
    constructor
    · rintro ⟨⟩
      exact ⟨[], rfl⟩
    · rintro ⟨words, hwords⟩
      cases words with
      | nil => exact congrArg some (Failure.report.inj hwords)
      | cons word rest => cases hwords
  | other t =>
    refine iff_of_false nofun ?_
    rintro ⟨words, hwords⟩
    cases words <;> cases hwords
  | wrapped word cause ih =>
    rw [Failure.report?, ih]
    constructor
    · rintro ⟨words, rfl⟩
      exact ⟨word :: words, rfl⟩
    · rintro ⟨words, hwords⟩
      cases words with
      | nil => cases hwords
      | cons word' rest => exact ⟨rest, (Failure.wrapped.inj hwords).2⟩

/-! ## Two faults with one message -/

/-- Two members miss the same name, and an alternative of the whole failed for that reason. -/
def twins : List Fault := [⟨["a"], .missing "id"⟩, ⟨[], .noneOf⟩, ⟨["b"], .missing "id"⟩]

/-- The faults are found in another order, and the sort leaves the two violations as it finds them. -/
theorem text_of_sorts_twins :
    twins.Perm twins.reverse ∧
      Violation.Sorts (Report.converted twins.reverse) (Report.converted twins.reverse) ∧
      (Report.converted twins.reverse).map (·.field) = ["b", "a"] ∧
      (⟨"User", Report.converted twins.reverse⟩ : Report).text =
        (Report.ofFaults "User" twins).text := by
  have hsorts : Violation.Sorts (Report.converted twins.reverse)
      (Report.converted twins.reverse) := ⟨.refl _, by decide⟩
  have hperm : twins.Perm twins.reverse := twins.reverse_perm.symm
  exact ⟨hperm, hsorts, by decide +kernel,
    ((Report.text_of_sorts "User").2.1 twins).2 twins.reverse _ hperm hsorts⟩

end SchemaKit.Validation
