import SchemaKit.Yaml.Basic

/-!
# The members of YAML tables

A table may take over the entries of other tables. Its own entries come first, and of several tables the
first one that has a name counts.

## Main definitions

* `Node.hasRepeats` — whether a table has a key twice.
* `Node.members?` — the members of a table by their names.
-/

namespace SchemaKit.Yaml

namespace Node

/-- Whether two keys are written alike. Collections are alike as keys, and aliases are if they have one name:
an alias is not alike to the node that it stands for. -/
def isAlike : Node → Node → Bool
  | scalar a _, scalar b _ => a = b
  | list _, list _ => true
  | table _, table _ => true
  | byName a _, byName b _ => a = b
  | _, _ => false

/-- Whether a key stands for the entries of other tables. An alias of such a key does not. -/
def isMerge : Node → Bool
  | scalar text tag => text = "<<" && (tag = .plain || tag = .merge)
  | _ => false

end Node

/-- Whether two keys are alike. -/
def hasRepeats : List (Node × Node) → Bool
  | [] => false
  | (k, _) :: rest => rest.any (fun e => k.isAlike e.1) || hasRepeats rest

/-- The entries of a table itself by their names. A key that means nothing names nothing. -/
def ownMembers? : List (Node × Node) → Option (List (String × Node))
  | [] => some []
  | (k, v) :: rest =>
    if k.isMerge then ownMembers? rest
    else match k.meaning? with
      | none => none
      | some .null => ownMembers? rest
      | some (.value name _) => (ownMembers? rest).map ((name, v) :: ·)

/-- Members that are not in `seen`; of several with one name the first one. -/
def unseen (seen : List String) : List (String × Node) → List (String × Node)
  | [] => []
  | (name, v) :: rest =>
    if seen.contains name then unseen seen rest else (name, v) :: unseen (name :: seen) rest

mutual

/-- The members of a table, or of an alias of a table, that are not in `seen`. -/
def membersFrom? (seen : List String) : Node → Option (List (String × Node))
  | .byName _ target => membersFrom? seen target
  | .table entries =>
    if hasRepeats entries then none
    else match ownMembers? entries with
      | none => none
      | some own =>
        let fresh := unseen seen own
        (mergedMembers? (seen ++ fresh.map (·.1)) entries).map (fresh ++ ·)
  | _ => none

/-- The members that the entries of a table take over. -/
def mergedMembers? (seen : List String) : List (Node × Node) → Option (List (String × Node))
  | [] => some []
  | (k, .list items) :: rest =>
    if k.isMerge then listedMembers? seen items else mergedMembers? seen rest
  | (k, v) :: rest => if k.isMerge then membersFrom? seen v else mergedMembers? seen rest

/-- The members of several tables. -/
def listedMembers? (seen : List String) : List Node → Option (List (String × Node))
  | [] => some []
  | n :: rest =>
    match membersFrom? seen n with
    | none => none
    | some first => (listedMembers? (seen ++ first.map (·.1)) rest).map (first ++ ·)

end

/-- The members of a table by their names, if it has no key twice and all keys are scalars. Keys that are
written in different ways may still have one name; such members of the table itself are all there. -/
def Node.members? : Node → Option (List (String × Node))
  | .table entries =>
    if hasRepeats entries then none
    else match ownMembers? entries with
      | none => none
      | some own => (mergedMembers? (own.map (·.1)) entries).map (own ++ ·)
  | _ => none

end SchemaKit.Yaml
