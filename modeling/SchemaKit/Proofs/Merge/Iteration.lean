import SchemaKit.Proofs.Merge.Meaning

/-!
# The order of iteration

A document's properties, or the members of an example, are a table without an order of its own, and
a merge goes through each of them in some order. The order could show where two entries meet the
same earlier one, or where the first entry that is refused ends the merge. But the entries of one
table have different names, so they do not meet each other, and whether one of them is refused does
not depend on those before it. Only the entry that is named in a refusal does.

## Main definitions

* `SchemaKit.Merge.Order` — a choice of an order for the table of each document.
* `SchemaKit.Merge.mergedTextIn`, `SchemaKit.Merge.overlaidTextIn` — merges that go through the
  tables in the chosen orders.

## Main results

* `SchemaKit.Merge.addProperties_perm` — the entries of a table can be added in any order.
* `SchemaKit.Merge.mergeTextsIn_toOption`, `SchemaKit.Merge.overlayTextsIn_eq` — so the order does
  not show after several documents.
* `SchemaKit.Merge.mergedTextIn_eq_of_orders` — merged texts do not depend on the orders.
-/

namespace SchemaKit.Merge

open Json (readWhole insertSorted)

/-- A choice of the order in which the entries of each document are gone through. Documents are
numbered, so that equal tables may be gone through in different orders. -/
structure Order where
  arrange : Nat → Entries → Entries
  perm : ∀ i es, (arrange i es).Perm es

/-- Entries by ascending names, which is how they are kept. -/
def Order.ascending : Order := ⟨fun _ es => es, fun _ _ => .rfl⟩

/-! ## One table -/

section

variable {s : Strategy} {acc es es' : Entries}

/-- **The entries of a table can be added in any order.** What becomes of a property is decided by
its own entry alone.

**Proof sketch.** Each name occurs at most once in the table, so the values that it is given are the
same in every order. By `addProperties_eq_some_iff` nothing else decides. -/
lemma addProperties_perm (hacc : Ascending acc) (hnodup : (es.map (·.1)).Nodup)
    (hperm : es'.Perm es) :
    (addProperties s acc es').toOption = (addProperties s acc es).toOption := by
  have hvalues : ∀ k, valuesOf k es' = valuesOf k es := by
    intro k
    have hvalues' : (valuesOf k es').Perm (valuesOf k es) := hperm.filterMap _
    rw [valuesOf_eq_toList hnodup] at hvalues' ⊢
    -- at most one value has no other order
    revert hvalues'
    cases Json.lookup? es k with
    | none => exact List.Perm.eq_nil
    | some v => exact List.Perm.eq_singleton
  ext r
  simp only [addProperties_eq_some_iff hacc, hvalues]

/-- Entries put over others one by one. -/
def putAll (acc es : Entries) : Entries := es.foldl (fun acc e => insertSorted e.1 e.2 acc) acc

/-- To overwrite is to put entries over others. -/
lemma addProperties_overwrite (acc es : Entries) :
    addProperties .overwrite acc es = .ok (putAll acc es) := by
  induction es generalizing acc with
  | nil => rfl
  | cons e rest ih =>
    have hone : addProperty .overwrite acc e = .ok (insertSorted e.1 e.2 acc) := ite_self _
    rw [addProperties, hone]
    exact ih _

/-- What is put over entries in order is in order. -/
lemma ascending_putAll (hacc : Ascending acc) (es : Entries) : Ascending (putAll acc es) :=
  (addProperties_eq_ok (addProperties_overwrite acc es)).1 hacc

/-- Entries with different names can be put over others in any order. -/
lemma putAll_perm (hacc : Ascending acc) (hnodup : (es.map (·.1)).Nodup) (hperm : es'.Perm es) :
    putAll acc es' = putAll acc es := by
  have h := addProperties_perm (s := .overwrite) hacc hnodup hperm
  rw [addProperties_overwrite, addProperties_overwrite] at h
  exact Option.some.inj h

/-- Entries can be put over each other first. -/
lemma putAll_putAll (hacc : Ascending acc) (es : Entries) :
    putAll acc (putAll [] es) = putAll acc es := by
  have h := addProperties_eq_bind (s := .overwrite) es hacc
  simp only [addProperties_overwrite] at h
  exact (Option.some.inj h).symm

end

/-! ## Schemas -/

/-- Texts are read and added one after the other, the properties of each in the chosen order. -/
def mergeTextsIn (order : Order) (s : Strategy) (i : Nat) (acc : Entries) (seen : List Fragment) :
    List (List Char) → Except Fault (Entries × List Fragment)
  | [] => .ok (acc, seen)
  | text :: rest =>
    match Fragment.ofText? text with
    | none => .error (.unreadableSchema i)
    | some f =>
      match addProperties s acc (order.arrange i f.properties) with
      | .error e => .error e
      | .ok acc => mergeTextsIn order s (i + 1) acc (seen ++ [f]) rest

/-- Merges schema texts in the chosen orders. -/
def schemasIn (order : Order) (s : Strategy) (strict : Bool) (texts : List (List Char)) :
    Except Fault Json :=
  if texts.isEmpty then .ok (.obj [])
  else
    match mergeTextsIn order s 0 [] [] texts with
    | .error e => .error e
    | .ok (properties, fragments) => .ok (mergedSchema strict properties (requiredOf fragments))

/-- The text of the schema that is merged in the chosen orders. -/
def mergedTextIn (order : Order) (s : Strategy) (strict : Bool) (texts : List (List Char)) :
    Except Fault (List Char) :=
  (schemasIn order s strict texts).map (·.indented.toList)

/-- In ascending order the texts are merged as they always are. -/
lemma mergeTextsIn_ascending (s : Strategy) (i : Nat) (acc : Entries) (seen : List Fragment)
    (texts : List (List Char)) :
    mergeTextsIn .ascending s i acc seen texts = mergeTexts s i acc seen texts := by
  induction texts generalizing i acc seen with
  | nil => rfl
  | cons text rest ih =>
    rw [mergeTextsIn, mergeTexts, ← Fragment.ofText?]
    simp only [ih]
    rfl

/-- **The order does not show in what is gathered.**

**Proof sketch.** Induction on the texts. The properties of the first one are added in both orders
or in none, with the same result, which is in order again. -/
lemma mergeTextsIn_toOption (order : Order) (s : Strategy) (i : Nat) {acc : Entries}
    (hacc : Ascending acc) (seen : List Fragment) (texts : List (List Char)) :
    (mergeTextsIn order s i acc seen texts).toOption =
      (mergeTexts s i acc seen texts).toOption := by
  induction texts generalizing i acc seen with
  | nil => rfl
  | cons text rest ih =>
    rw [mergeTextsIn, mergeTexts, ← Fragment.ofText?]
    cases hread : Fragment.ofText? text with
    | none => rfl
    | some f =>
      have hadd := addProperties_perm (s := s) hacc (ascending_of_ofText? hread).nodup
        (order.perm i f.properties)
      cases hin : addProperties s acc (order.arrange i f.properties) with
      | error e =>
        cases hplain : addProperties s acc f.properties with
        | error e' => simp only [hin, hplain]; rfl
        | ok acc' =>
          rw [hin, hplain] at hadd
          cases hadd
      | ok acc' =>
        cases hplain : addProperties s acc f.properties with
        | error e' =>
          rw [hin, hplain] at hadd
          cases hadd
        | ok acc'' =>
          rw [hin, hplain] at hadd
          obtain rfl : acc' = acc'' := Option.some.inj hadd
          simp only [hin, hplain]
          exact ih (i + 1) ((addProperties_eq_ok hplain).1 hacc) (seen ++ [f])

/-- In any order schemas are merged to the same text, or not at all.

**Proof sketch.** The texts are merged to the same entries, by `mergeTextsIn_toOption`, and the
document is written from them in the same way. -/
lemma mergedTextIn_toOption (order : Order) (s : Strategy) (strict : Bool)
    (texts : List (List Char)) :
    (mergedTextIn order s strict texts).toOption = (mergedText s strict texts).toOption := by
  have hmerge := mergeTextsIn_toOption order s 0 ascending_nil [] texts
  rw [mergedTextIn, mergedText, schemasIn, schemas]
  split
  · rfl
  · cases hin : mergeTextsIn order s 0 [] [] texts <;>
      cases hplain : mergeTexts s 0 [] [] texts <;> rw [hin, hplain] at hmerge
    · rfl
    · cases hmerge
    · cases hmerge
    · rw [Option.some.inj hmerge]

/-! ## Examples -/

/-- The entries of an example text, of each name the last one. -/
def entriesOf? (text : List Char) : Option Entries := (readWhole text).bind (readProperties [])

/-- Lays example texts over each other, the entries of each in the chosen order. -/
def overlayTextsIn (order : Order) (i : Nat) (acc : Entries) :
    List (List Char) → Except Fault Entries
  | [] => .ok acc
  | text :: rest =>
    match entriesOf? text with
    | none => .error (.unreadableExample i)
    | some es => overlayTextsIn order (i + 1) (putAll acc (order.arrange i es)) rest

/-- The text of the merged example. -/
def overlaidText (texts : List (List Char)) : Except Fault (List Char) :=
  (examples texts).map (·.indented.toList)

/-- The text of the example that is merged in the chosen orders. -/
def overlaidTextIn (order : Order) (texts : List (List Char)) : Except Fault (List Char) :=
  ((overlayTextsIn order 0 [] texts).map Json.obj).map (·.indented.toList)

/-- Members are put over entries one by one, as they are decoded.

**Proof sketch.** Induction on the members. -/
lemma overlay?_eq_map_mapM (old : Entries) (members : List (String × Json)) :
    overlay? old members =
      (members.mapM fun m => (Json.canonical? m.2).map (Prod.mk m.1)).map (putAll old) := by
  induction members generalizing old with
  | nil => rfl
  | cons m rest ih =>
    rw [overlay?, List.mapM_cons]
    cases Json.canonical? m.2 with
    | none => rfl
    | some w =>
      simp only [ih, Option.map_some, Option.bind_eq_bind, Option.bind_some, Option.pure_def]
      cases rest.mapM fun m => (Json.canonical? m.2).map (Prod.mk m.1) <;> rfl

/-- Members can be put over each other first. -/
lemma overlay?_eq_map {old : Entries} (hold : Ascending old) (members : List (String × Json)) :
    overlay? old members = (overlay? [] members).map (putAll old) := by
  rw [overlay?_eq_map_mapM, overlay?_eq_map_mapM [], Option.map_map]
  congr 1
  funext es
  exact (putAll_putAll hold es).symm

/-- The entries of an example text are in order. -/
lemma ascending_of_entriesOf? {text : List Char} {es : Entries} (h : entriesOf? text = some es) :
    Ascending es := by
  obtain ⟨doc, -, hread⟩ := Option.bind_eq_some_iff.1 h
  exact (keptBelow_ascending _).of_readProperties ascending_nil le_rfl hread ascending_nil

/-- Laying a text over entries is putting its own entries over them.

**Proof sketch.** By the kind of document: an object gives its entries, and anything else is refused
on both sides. -/
lemma overlayTexts_cons (i : Nat) {acc : Entries} (hacc : Ascending acc) (text : List Char)
    (rest : List (List Char)) :
    overlayTexts i acc (text :: rest) =
      match entriesOf? text with
      | none => .error (.unreadableExample i)
      | some es => overlayTexts (i + 1) (putAll acc es) rest := by
  rw [overlayTexts, entriesOf?]
  cases readWhole text with
  | none => rfl
  | some doc =>
    cases doc with
    | obj members =>
      simp only [Option.bind_some, readProperties, overlay?_eq_map hacc]
      cases overlay? [] members <;> rfl
    | null | bool _ | num _ | str _ | arr _ => rfl

/-- **The order does not show in an example.**

**Proof sketch.** Induction on the texts. The entries of a text have different names, so they can be
put over the others in any order. -/
lemma overlayTextsIn_eq (order : Order) (i : Nat) {acc : Entries} (hacc : Ascending acc)
    (texts : List (List Char)) : overlayTextsIn order i acc texts = overlayTexts i acc texts := by
  induction texts generalizing i acc with
  | nil => rfl
  | cons text rest ih =>
    rw [overlayTextsIn, overlayTexts_cons i hacc]
    cases hread : entriesOf? text with
    | none => rfl
    | some es =>
      have hput := putAll_perm hacc (ascending_of_entriesOf? hread).nodup (order.perm i es)
      simp only [hput]
      exact ih (i + 1) (ascending_putAll hacc es)

/-! ## Any two orders -/

/-- **Merged texts do not depend on the orders** in which the tables of documents are gone through.
In any two choices of orders, schemas are merged to the same text or both merges fail, and examples
are merged with the same outcome. In ascending order they are merged as they always are.

**Proof sketch.** Both orders give the merge in ascending order, for schemas by
`mergedTextIn_toOption` and for examples by `overlayTextsIn_eq`. -/
theorem mergedTextIn_eq_of_orders (order order' : Order) (s : Strategy) (strict : Bool)
    (texts : List (List Char)) :
    (mergedTextIn order s strict texts).toOption = (mergedTextIn order' s strict texts).toOption ∧
      overlaidTextIn order texts = overlaidTextIn order' texts ∧
      mergedTextIn .ascending s strict texts = mergedText s strict texts ∧
      overlaidTextIn .ascending texts = overlaidText texts := by
  have hoverlaid : ∀ order, overlaidTextIn order texts = overlaidText texts := by
    intro order
    rw [overlaidTextIn, overlayTextsIn_eq order 0 ascending_nil, overlaidText, examples]
  refine ⟨?_, ?_, ?_, hoverlaid _⟩
  · rw [mergedTextIn_toOption, mergedTextIn_toOption]
  · rw [hoverlaid, hoverlaid]
  · rw [mergedTextIn, schemasIn, mergeTextsIn_ascending]
    rfl

/-- Which property is named in a refusal does depend on the order. -/
example :
    addProperties .refuse [("a", .null), ("b", .null)] [("a", .null), ("b", .null)] =
        .error (.duplicate "a") ∧
      addProperties .refuse [("a", .null), ("b", .null)] [("b", .null), ("a", .null)] =
        .error (.duplicate "b") :=
  ⟨rfl, rfl⟩

end SchemaKit.Merge
