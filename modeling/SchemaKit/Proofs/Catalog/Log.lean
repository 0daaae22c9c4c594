import SchemaKit.Proofs.Catalog.Comparison
import SchemaKit.Proofs.Json.Sorted

/-!
# What calls store in a catalog

A call that adds something goes through a schema and the definitions inside it, and stores one
schema after the other until one of them is refused. The log of a call lists what is stored, in
order and as it was given, that is, with its own definitions. Every call is a run along its log, so
that a property of catalogs has to be shown for a single store only.

## Main definitions

* `SchemaKit.Catalog.store` — a catalog after one store.
* `SchemaKit.Catalog.Run` — one store after the other, each of them judged in the catalog before it.
* `SchemaKit.Catalog.added`, `SchemaKit.Catalog.registered` — the log of adding a schema, and of
  registering entities.
* `SchemaKit.Catalog.Call`, `SchemaKit.Catalog.after` — calls, and the catalog after several.

## Main results

* `SchemaKit.Catalog.judge_eq_true_iff` — when a schema is stored.
* `SchemaKit.Catalog.run_add`, `SchemaKit.Catalog.run_register` — calls are runs along their logs.
* `SchemaKit.Catalog.Run.induct` — what every store preserves holds after a run.
-/

namespace SchemaKit

open Schema (Key Part Sub)

namespace Catalog

/-! ## One store -/

/-- A catalog with a schema stored under a name. The definitions inside the schema are left out. -/
def store (c : Catalog) (name : String) (s : Schema) : Catalog :=
  c.insert name (s.drop .definitions)

section

variable {c : Catalog} {name other : String} {s : Schema}

/-- Looking up a schema after a store. -/
lemma get?_store :
    (c.store name s).get? other =
      if name = other then some (s.drop .definitions) else c.get? other :=
  Json.lookup?_insertSorted

/-- The names after a store. -/
lemma mem_names_store : other ∈ (c.store name s).names ↔ other = name ∨ other ∈ c.names :=
  Json.mem_keys_insertSorted

/-- The names are those under which a schema is found. -/
lemma mem_names_iff : name ∈ c.names ↔ (c.get? name).isSome = true :=
  Json.isSome_lookup?_iff.symm

/-- **When a schema is stored**: its name is not empty, and either there is the same schema under
the name, which does not have examples that would be lost, or the name is new, also up to case.

**Proof sketch.** By cases in the order in which the judgement asks: for an empty name, for a schema
under the name, and for a name that is equal up to case. Each case fixes one alternative of the
right side. -/
lemma judge_eq_true_iff :
    c.judge name s = .ok true ↔
      name ≠ "" ∧
        ((∃ old, c.get? name = some old ∧ isSame old s = true ∧
            (hasExamples old = true → hasExamples s = true)) ∨
          (c.get? name = none ∧ ∀ n ∈ c.names, Text.equalFold n name = false)) := by
  rw [judge]
  by_cases hname : name = ""
  · simp [hname]
  · cases hget : c.get? name with
    | some old =>
      cases hsame : isSame old s <;> cases hasExamples old <;> cases hasExamples s <;>
        simp [hname, hsame]
    | none =>
      cases hfind : c.names.find? (Text.equalFold · name) with
      | some n =>
        have hmem := List.mem_of_find?_eq_some hfind
        have hfold : Text.equalFold n name = true := by simpa using List.find?_some hfind
        simp only [hname, if_false, reduceCtorEq, false_iff]
        rintro ⟨-, ⟨old, hold, -⟩ | ⟨-, hnew⟩⟩
        · simp at hold
        · rw [hnew n hmem] at hfold
          simp at hfold
      | none =>
        have hnew : ∀ n ∈ c.names, Text.equalFold n name = false := by
          simpa using List.find?_eq_none.1 hfind
        simpa [hname] using hnew

end

/-! ## Runs -/

/-- One store after the other, each of them judged in the catalog before it. -/
inductive Run : Catalog → List (String × Schema) → Catalog → Prop
  | nil {c : Catalog} : Run c [] c
  | cons {c c' : Catalog} {name : String} {s : Schema} {log : List (String × Schema)} :
      c.judge name s = .ok true → Run (c.store name s) log c' → Run c ((name, s) :: log) c'

namespace Run

variable {c c' c'' : Catalog} {log log' : List (String × Schema)}

/-- A run can be continued. -/
lemma append (h : Run c log c') (h' : Run c' log' c'') : Run c (log ++ log') c'' := by
  induction h with
  | nil => exact h'
  | cons hjudge _ ih => exact .cons hjudge (ih h')

/-- **What every store preserves holds after a run.** -/
lemma induct {P : Catalog → Prop}
    (hstep : ∀ c name s, P c → c.judge name s = .ok true → P (c.store name s))
    (h : Run c log c') (hc : P c) : P c' := by
  induction h with
  | nil => exact hc
  | cons hjudge _ ih => exact ih (hstep _ _ _ hc hjudge)

/-- The names after a run are those before it and those of its log. -/
lemma mem_names (h : Run c log c') (name : String) :
    name ∈ c'.names ↔ name ∈ c.names ∨ name ∈ log.map (·.1) := by
  induction h with
  | nil => simp
  | cons _ _ ih =>
    rw [ih, mem_names_store, List.map_cons, List.mem_cons]
    tauto

end Run

/-! ## The log of adding a schema -/

mutual

/-- What is stored when a schema is added under a name. -/
def added : Schema → (name : String) → Catalog → List (String × Schema)
  | .mk parts extra, name, c =>
    match c.judge name (.mk parts extra) with
    | .ok true => (name, .mk parts extra) :: addedParts parts (c.store name (.mk parts extra))
    | _ => []

/-- What is stored from the definitions among the parts of a schema. -/
def addedParts : List (Key × Part) → Catalog → List (String × Schema)
  | [], _ => []
  | (k, p) :: rest, c => if k = .definitions then addedPart p c else addedParts rest c

/-- What is stored from the definitions of a part. -/
def addedPart : Part → Catalog → List (String × Schema)
  | .named entries, c => addedEntries entries c
  | _, _ => []

/-- What is stored definition by definition, up to the first that is refused. -/
def addedEntries : List (String × Sub) → Catalog → List (String × Schema)
  | [], _ => []
  | (name, sub) :: rest, c =>
    addedSub sub name c ++
      match addSub sub name c with
      | (c, .ok ()) => addedEntries rest c
      | _ => []

/-- What is stored from a definition. -/
def addedSub : Sub → (name : String) → Catalog → List (String × Schema)
  | .schema s, name, c => added s name c
  | _, _, _ => []

end

mutual

/-- **Adding a schema is a run along its log**, whether or not it ends with a refusal.

**Proof sketch.** By the verdict on the schema. If it is stored, that is one step, and the
definitions among its parts go on from there by `run_addParts`. -/
theorem run_add (s : Schema) (name : String) (c : Catalog) :
    Run c (added s name c) (add s name c).1 := by
  obtain ⟨parts, extra⟩ := s
  rw [added, add]
  cases hjudge : c.judge name (.mk parts extra) with
  | error r => exact .nil
  | ok stored =>
    cases stored with
    | false => exact .nil
    | true => exact .cons hjudge (run_addParts parts _)

/-- Adding the definitions among the parts of a schema is a run.

**Proof sketch.** By recursion over the parts: only those under the key of definitions are looked
at. -/
theorem run_addParts (parts : List (Key × Part)) (c : Catalog) :
    Run c (addedParts parts c) (addParts parts c).1 := by
  match parts with
  | [] => exact .nil
  | (k, p) :: rest =>
    rw [addedParts, addParts]
    by_cases hk : k = .definitions
    · rw [if_pos hk, if_pos hk]
      exact run_addPart p c
    · rw [if_neg hk, if_neg hk]
      exact run_addParts rest c

/-- Adding the definitions of a part is a run. -/
theorem run_addPart (p : Part) (c : Catalog) : Run c (addedPart p c) (addPart p c).1 := by
  match p with
  | .named entries => exact run_addEntries entries c
  | .data _ | .one _ | .list _ => exact .nil

/-- Adding definitions one by one is a run.

**Proof sketch.** By recursion on the entries. Each entry is a run by itself, and the first refusal
ends all of it. -/
theorem run_addEntries (entries : List (String × Sub)) (c : Catalog) :
    Run c (addedEntries entries c) (addEntries entries c).1 := by
  match entries with
  | [] => exact .nil
  | (name, sub) :: rest =>
    have hfirst := run_addSub sub name c
    rw [addedEntries, addEntries]
    match hadd : addSub sub name c with
    | (c', .ok ()) =>
      rw [hadd] at hfirst
      exact hfirst.append (run_addEntries rest c')
    | (c', .error r) =>
      rw [hadd] at hfirst
      simpa using hfirst

/-- Adding a definition is a run. -/
theorem run_addSub (sub : Sub) (name : String) (c : Catalog) :
    Run c (addedSub sub name c) (addSub sub name c).1 := by
  match sub with
  | .schema s => exact run_add s name c
  | .truth _ | .nothing | .names _ => exact .nil

end

/-! ## The logs of calls -/

/-- What is stored when an entity is registered. -/
def registeredOne (c : Catalog) (e : Entity) : List (String × Schema) :=
  match schemaOf e with
  | .error _ => []
  | .ok s => added s e.name c

/-- What is stored when entities are registered one by one. -/
def registered (c : Catalog) : List Entity → List (String × Schema)
  | [] => []
  | e :: rest =>
    c.registeredOne e ++
      match c.registerOne e with
      | (c, .ok ()) => c.registered rest
      | _ => []

/-- Registering an entity is a run along its log.

**Proof sketch.** An entity without a schema adds nothing. For any other one this is `run_add`. -/
lemma run_registerOne (c : Catalog) (e : Entity) :
    Run c (c.registeredOne e) (c.registerOne e).1 := by
  rw [registeredOne, registerOne]
  cases schemaOf e with
  | error r => exact .nil
  | ok s =>
    have hadd := run_add s e.name c
    match h : add s e.name c with
    | (c', .ok ()) => simpa [h] using hadd
    | (c', .error r) => simpa [h] using hadd

/-- **Registering entities is a run along the log**, up to the first entity that is refused.

**Proof sketch.** By induction on the entities. The first one is a run by itself; if it is refused
nothing is left to do, and otherwise the rest continues the run. -/
theorem run_register (c : Catalog) (es : List Entity) :
    Run c (c.registered es) (c.register es).1 := by
  induction es generalizing c with
  | nil => exact .nil
  | cons e rest ih =>
    have hfirst := run_registerOne c e
    rw [registered, register]
    match h : c.registerOne e with
    | (c', .ok ()) =>
      rw [h] at hfirst
      exact hfirst.append (ih c')
    | (c', .error r) =>
      rw [h] at hfirst
      simpa using hfirst

/-- A call that changes a catalog: entities are registered, which may be a single fresh one, the
schema of a shape is added, or a schema is added. -/
inductive Call where
  | register (entities : List Entity)
  | registerShape (name : String) (shape : Shape)
  | add (name : String) (s : Schema)

/-- The outcome of a call. -/
def Call.apply (c : Catalog) : Call → Catalog × Except Refusal Unit
  | .register entities => c.register entities
  | .registerShape name shape => c.registerShape name shape
  | .add name s => Catalog.add s name c

/-- What a call stores. -/
def Call.log (c : Catalog) : Call → List (String × Schema)
  | .register entities => c.registered entities
  | .registerShape name shape =>
    match shape.schema? with
    | none => []
    | some s => added s name c
  | .add name s => added s name c

/-- Every call is a run along its log. -/
lemma Call.run_apply (c : Catalog) (call : Call) : Run c (call.log c) (call.apply c).1 := by
  cases call with
  | register entities => exact run_register c entities
  | registerShape name shape =>
    rw [Call.log, Call.apply, Catalog.registerShape]
    cases shape.schema? with
    | none => exact .nil
    | some s => exact run_add s name c
  | add name s => exact run_add s name c

/-- The catalog after calls one after the other. Calls that are refused leave behind what they
stored before the refusal. -/
def after (c : Catalog) : List Call → Catalog
  | [] => c
  | call :: rest => (call.apply c).1.after rest

/-- What several calls store. -/
def logAfter (c : Catalog) : List Call → List (String × Schema)
  | [] => []
  | call :: rest => call.log c ++ (call.apply c).1.logAfter rest

/-- **Calls one after the other are a run.** -/
theorem run_after (c : Catalog) (calls : List Call) : Run c (c.logAfter calls) (c.after calls) := by
  induction calls generalizing c with
  | nil => exact .nil
  | cons call rest ih => exact (Call.run_apply c call).append (ih _)

end Catalog

end SchemaKit
