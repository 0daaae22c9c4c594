import Mathlib.Data.List.Basic
import Mathlib.Tactic.Common
import SchemaKit.Proofs.Json.Sorted
import SchemaKit.Schema.Basic

/-!
# Placing a schema inside another one

A part that is put in a schema is found under its key, whatever stood there, and under all other keys
nothing changes. So a schema can be exchanged at a position inside another one: step by step, each through
a property, items, further members or a definition, and what lies beside the way stays as it is.

## Main definitions

* `SchemaKit.Schema.Via` — a step into a schema.
* `SchemaKit.Schema.at?`, `SchemaKit.Schema.replaceAt` — the schema at a position, and a schema with
  another one at that position.

## Main results

* `SchemaKit.Schema.part?_put_self`, `SchemaKit.Schema.part?_put_of_ne` — what is found after a part
  was put.
* `SchemaKit.Schema.Via.sub?_putAt`, `SchemaKit.Schema.Via.part?_putAt_of_ne` — what is found after a
  schema was put behind a step.
* `SchemaKit.Schema.at?_replaceAt` — what stands at a position afterwards.
-/

namespace SchemaKit.Schema

variable {s : Schema} {j k : Key}

/-- A part that was put is found.

**Proof sketch.** Induction on the parts, by the place where the key belongs. -/
@[simp] lemma part?_put_self (s : Schema) (k : Key) (p : Part) : (s.put k p).part? k = some p := by
  obtain ⟨parts, extra⟩ := s
  simp only [put, part?, Schema.parts]
  induction parts with
  | nil => simp [insertPart]
  | cons e rest ih =>
    obtain ⟨k', p'⟩ := e
    rw [insertPart]
    split
    · simp
    · rename_i hne
      split
      · simp
      · rw [List.find?_cons_of_neg (by simpa using Ne.symm hne)]
        exact ih

/-- A part that is put under another key is not in the way.

**Proof sketch.** Induction on the parts. The search for the other key passes the part that is put. -/
lemma part?_put_of_ne (s : Schema) (p : Part) (h : j ≠ k) : (s.put k p).part? j = s.part? j := by
  obtain ⟨parts, extra⟩ := s
  simp only [put, part?, Schema.parts]
  induction parts with
  | nil => simp [insertPart, Ne.symm h]
  | cons e rest ih =>
    obtain ⟨k', p'⟩ := e
    rw [insertPart]
    split
    · rename_i hk
      subst hk
      rw [List.find?_cons_of_neg (by simpa using Ne.symm h),
        List.find?_cons_of_neg (by simpa using Ne.symm h)]
    · split
      · rw [List.find?_cons_of_neg (by simpa using Ne.symm h)]
      · by_cases hj : k' = j
        · rw [List.find?_cons_of_pos (by simpa using hj), List.find?_cons_of_pos (by simpa using hj)]
        · rw [List.find?_cons_of_neg (by simpa using hj), List.find?_cons_of_neg (by simpa using hj)]
          exact ih

/-! ## Entries -/

/-- Entries with something else under a name that is there. -/
def renewed (name : String) (sub : Sub) (es : List (String × Sub)) : List (String × Sub) :=
  es.map fun e => if e.1 = name then (name, sub) else e

/-- The names stay. -/
lemma map_fst_renewed (name : String) (sub : Sub) (es : List (String × Sub)) :
    (renewed name sub es).map (·.1) = es.map (·.1) := by
  rw [renewed, List.map_map]
  refine List.map_congr_left fun e _ => ?_
  rw [Function.comp_apply]
  split
  · next h => exact h.symm
  · rfl

/-- What is found under a name afterwards.

**Proof sketch.** Induction on the entries. -/
lemma lookup?_renewed (name other : String) (sub : Sub) (es : List (String × Sub)) :
    Json.lookup? (renewed name sub es) other =
      if other = name then (Json.lookup? es name).map fun _ => sub else Json.lookup? es other := by
  induction es with
  | nil => simp [renewed, Json.lookup?]
  | cons e rest ih =>
    obtain ⟨k, old⟩ := e
    have hcons : renewed name sub ((k, old) :: rest) =
        (if k = name then (name, sub) else (k, old)) :: renewed name sub rest := rfl
    rw [hcons]
    by_cases hk : k = name <;> by_cases ho : other = name <;> by_cases hko : k = other <;>
      simp_all [Json.lookup?_cons]

/-! ## Steps -/

/-- A step into a schema: to a property, to the schema of all items or of the item at an index, to that
of further members, or to a definition. -/
inductive Via where
  | property (name : String)
  | items
  | item (i : Nat)
  | entries
  | definition (name : String)
  deriving DecidableEq

namespace Via

/-- The key below which a step leads. -/
def key : Via → Key
  | property _ => .properties
  | items | item _ => .items
  | entries => .additionalProperties
  | definition _ => .definitions

/-- Steps lead below four keys only. -/
lemma ne_key {k : Key} (h : k ∉ [Key.properties, .items, .additionalProperties, .definitions])
    (v : Via) : k ≠ v.key := by
  rintro rfl
  cases v <;> simp [key] at h

/-- Whether a step leads to a definition. -/
def isDefinition : Via → Bool
  | definition _ => true
  | _ => false

/-- What stands behind a step below the key of the step. -/
def inside? : Part → Via → Option Sub
  | .named es, property name | .named es, definition name => Json.lookup? es name
  | .one sub, items | .one sub, entries => some sub
  | .list subs, item i => subs[i]?
  | _, _ => none

/-- A part with something else behind a step. -/
def renew (sub : Sub) : Part → Via → Part
  | .named es, property name | .named es, definition name => .named (renewed name sub es)
  | .one _, items | .one _, entries => .one sub
  | .list subs, item i => .list (subs.set i sub)
  | p, _ => p

/-- What stands behind a step. -/
def sub? (v : Via) (s : Schema) : Option Sub := (s.part? v.key).bind (inside? · v)

/-- The schema behind a step. -/
def at? (v : Via) (s : Schema) : Option Schema := (v.sub? s).bind Sub.schema?

/-- Where there is a schema behind a step. -/
lemma at?_eq_some_iff {v : Via} {s t : Schema} : v.at? s = some t ↔ v.sub? s = some (.schema t) := by
  rw [at?]
  rcases v.sub? s with _ | ⟨_⟩ | _ | _ | _ <;> simp [Sub.schema?]

/-- A schema with another one behind a step. -/
def putAt (v : Via) (t s : Schema) : Schema :=
  match s.part? v.key with
  | some p => s.put v.key (renew (.schema t) p v)
  | none => s

/-- What a schema says otherwise stays. -/
lemma part?_putAt_of_ne {v : Via} {k : Key} (t s : Schema) (h : k ≠ v.key) :
    (v.putAt t s).part? k = s.part? k := by
  rw [putAt]
  split
  · exact part?_put_of_ne s _ h
  · rfl

/-- What stands behind a step in a part that was renewed behind a step.

**Proof sketch.** By the two steps, which have one key. Then they are of one kind, and only for
names and for positions there is something to compare. -/
lemma inside?_renew {p : Part} {v w : Via} {old : Sub} (hkey : w.key = v.key)
    (h : inside? p v = some old) (sub : Sub) :
    inside? (renew sub p v) w = if w = v then some sub else inside? p w := by
  cases v with
  | property name =>
    cases w with
    | property other =>
      cases p with
      | named es =>
        have hname : Json.lookup? es name = some old := h
        simp [inside?, renew, lookup?_renewed, hname]
      | data | one | list => cases h
    | items | item | entries | definition => cases hkey
  | items =>
    cases p with
    | one sub =>
      cases w with
      | items | item => rfl
      | property | entries | definition => cases hkey
    | data | list | named => cases h
  | item i =>
    cases p with
    | list subs =>
      have hitem : subs[i]? = some old := h
      obtain ⟨hi, -⟩ := List.getElem?_eq_some_iff.1 hitem
      cases w with
      | item j => by_cases hj : i = j <;> simp_all [inside?, renew, eq_comm]
      | items => rfl
      | property | entries | definition => cases hkey
    | data | one | named => cases h
  | entries =>
    cases p with
    | one sub =>
      cases w with
      | entries => rfl
      | property | items | item | definition => cases hkey
    | data | list | named => cases h
  | definition name =>
    cases w with
    | definition other =>
      cases p with
      | named es =>
        have hname : Json.lookup? es name = some old := h
        simp [inside?, renew, lookup?_renewed, hname]
      | data | one | list => cases h
    | items | item | entries | property => cases hkey

/-- **What stands behind a step afterwards**: the schema that was put there, or what stood there before
if the step is another one.

**Proof sketch.** A step with another key does not see the part that was renewed. For a step with
the same key it is `inside?_renew`. -/
lemma sub?_putAt {v : Via} {s old : Schema} (h : v.at? s = some old) (t : Schema) (w : Via) :
    w.sub? (v.putAt t s) = if w = v then some (.schema t) else w.sub? s := by
  obtain ⟨sub, hsub, -⟩ := Option.bind_eq_some_iff.1 h
  by_cases hkey : w.key = v.key
  · obtain ⟨p, hpart, hinside⟩ := Option.bind_eq_some_iff.1 hsub
    have hput : (v.putAt t s).part? v.key = some (renew (.schema t) p v) := by
      rw [putAt, hpart]
      exact part?_put_self s _ _
    rw [sub?, sub?, hkey, hput, hpart]
    exact inside?_renew hkey hinside _
  · have hne : w ≠ v := fun hw => hkey (congrArg key hw)
    rw [if_neg hne, sub?, sub?, part?_putAt_of_ne t s hkey]

/-- The names of entries stay.

**Proof sketch.** Only the part under the key of the step is renewed, and renewing an entry keeps
its name. -/
lemma map_fst_entries_putAt (v : Via) (t s : Schema) (k : Key) :
    ((v.putAt t s).entries k).map (·.1) = (s.entries k).map (·.1) := by
  by_cases hk : k = v.key
  · subst hk
    rw [putAt]
    cases hpart : s.part? v.key with
    | none => rfl
    | some p =>
      have hself := part?_put_self s v.key (renew (.schema t) p v)
      rw [Schema.entries, Schema.entries, hself, hpart]
      cases p with
      | named es =>
        cases v with
        | property name => exact map_fst_renewed name _ es
        | definition name => exact map_fst_renewed name _ es
        | items | item | entries => rfl
      | data | one | list => cases v <;> rfl
  · rw [Schema.entries, Schema.entries, part?_putAt_of_ne t s hk]

/-- What stands behind a property. -/
lemma sub?_property (s : Schema) (name : String) :
    (property name).sub? s = Json.lookup? (s.entries .properties) name := by
  rw [sub?, Schema.entries, key]
  cases s.part? .properties with
  | none => rfl
  | some p => cases p <;> rfl

/-- What stands behind a definition. -/
lemma sub?_definition (s : Schema) (name : String) :
    (definition name).sub? s = Json.lookup? (s.entries .definitions) name := by
  rw [sub?, Schema.entries, key]
  cases s.part? .definitions with
  | none => rfl
  | some p => cases p <;> rfl

/-- What stands behind items. -/
lemma sub?_items (s : Schema) : items.sub? s = s.sub? .items := by
  rw [sub?, Schema.sub?, key]
  cases s.part? .items with
  | none => rfl
  | some p => cases p <;> rfl

/-- What stands behind further members. -/
lemma sub?_entries (s : Schema) : entries.sub? s = s.sub? .additionalProperties := by
  rw [sub?, Schema.sub?, key]
  cases s.part? .additionalProperties with
  | none => rfl
  | some p => cases p <;> rfl

end Via

/-- The schema at a position inside a schema. -/
def at? : List Via → Schema → Option Schema
  | [], s => some s
  | v :: rest, s => (v.at? s).bind (at? rest)

/-- A schema with another one at a position. -/
def replaceAt (new : Schema) : List Via → Schema → Schema
  | [], _ => new
  | v :: rest, s =>
    match v.at? s with
    | some t => v.putAt (replaceAt new rest t) s
    | none => s

/-- **What stands at a position afterwards** is what was put there.

**Proof sketch.** Induction on the steps: behind the first one stands what was put there, by
`sub?_putAt`. -/
theorem at?_replaceAt {new old : Schema} {steps : List Via} {s : Schema}
    (h : at? steps s = some old) : at? steps (replaceAt new steps s) = some new := by
  induction steps generalizing s with
  | nil => rfl
  | cons v rest ih =>
    obtain ⟨t, hat, ht⟩ := Option.bind_eq_some_iff.1 h
    have hput : v.at? (v.putAt (replaceAt new rest t) s) = some (replaceAt new rest t) := by
      rw [Via.at?_eq_some_iff, Via.sub?_putAt hat, if_pos rfl]
    rw [replaceAt, hat, at?]
    simp only [hput, Option.bind_some, ih ht]

end SchemaKit.Schema
