import SchemaKit.Proofs.Json.RoundTrip
import SchemaKit.Proofs.Validation.Clean
import SchemaKit.Users.Account

/-!
# Accounts survive their text form

The text of an account crosses four parts of the library: the writer, the validator with the schema
that was merged from two fragments, the reader, and the reading of the id as an integer. Each part
is described by one lemma, and together they give back the account.

## Main definitions

* `SchemaKit.userConstraint` — what the schema of users is compiled to.

## Main results

* `SchemaKit.compileText_userSchema` — the schema of users compiles to `userConstraint`.
* `SchemaKit.clean_userConstraint` — which objects satisfy `userConstraint`.
* `SchemaKit.Account.readDraft_members` — what is read from the members of a user.
* `SchemaKit.Account.deserialize_serialize` — accounts survive their text form.
-/

namespace SchemaKit

open Json Validation

/-! ## The schema of users -/

/-- The fragment of users that is about their identity, as a document. -/
def identityDocument : Json :=
  .obj [("type", .str "object"), ("properties", .obj [("id", .obj [("type", .str "integer")])]),
    ("required", .arr [.str "id"])]

/-- The fragment of users that is about their profile, as a document. -/
def profileDocument : Json :=
  .obj [("type", .str "object"),
    ("properties", .obj [("name", .obj [("type", .str "string")]),
      ("email", .obj [("type", .arr [.str "string", .str "null"])])]),
    ("required", .arr [.str "name"])]

/-- The text of the identity fragment is its document in compact form. -/
lemma readWhole_identitySchema : readWhole identitySchema.toList = some identityDocument := by
  have htext : identitySchema = identityDocument.compact := by rfl
  rw [htext]
  exact readWhole_compact (by simp [identityDocument, WellFormed, WellFormed.wellFormedItems,
    WellFormed.wellFormedMembers]) (by decide)

/-- The text of the profile fragment is its document in compact form. -/
lemma readWhole_profileSchema : readWhole profileSchema.toList = some profileDocument := by
  have htext : profileSchema = profileDocument.compact := by rfl
  rw [htext]
  exact readWhole_compact (by simp [profileDocument, WellFormed, WellFormed.wellFormedItems,
    WellFormed.wellFormedMembers]) (by decide)

/-- What a merge takes from the identity fragment. -/
lemma read?_identityDocument :
    Merge.Fragment.read? identityDocument =
      some ⟨[("id", .obj [("type", .str "integer")])], ["id"]⟩ := by rfl

/-- What a merge takes from the profile fragment. -/
lemma read?_profileDocument :
    Merge.Fragment.read? profileDocument =
      some ⟨[("email", .obj [("type", .arr [.str "string", .str "null"])]),
        ("name", .obj [("type", .str "string")])], ["name"]⟩ := by rfl

/-- A fragment that can be read and added takes the merge to the next text. -/
lemma Merge.mergeTexts_cons {s : Merge.Strategy} {i : Nat} {acc acc' : Merge.Entries}
    {seen : List Merge.Fragment} {text : List Char} {rest : List (List Char)} {doc : Json}
    {f : Merge.Fragment} (hread : readWhole text = some doc)
    (hfragment : Merge.Fragment.read? doc = some f)
    (hadd : Merge.addProperties s acc f.properties = .ok acc') :
    Merge.mergeTexts s i acc seen (text :: rest) =
      Merge.mergeTexts s (i + 1) acc' (seen ++ [f]) rest := by
  rw [Merge.mergeTexts, hread, Option.bind_some, hfragment]
  simp only [hadd]

/-- The schema of users as one document. -/
def userDocument : Json :=
  .obj [("additionalProperties", .bool false),
    ("properties", .obj [("email", .obj [("type", .arr [.str "string", .str "null"])]),
      ("id", .obj [("type", .str "integer")]), ("name", .obj [("type", .str "string")])]),
    ("required", .arr [.str "id", .str "name"]), ("type", .str "object")]

/-- The two fragments have no property in common and are merged into one document. -/
lemma schemas_identity_profile :
    Merge.schemas .refuse true [identitySchema.toList, profileSchema.toList] =
      .ok userDocument := by
  rw [Merge.schemas, if_neg (by simp),
    Merge.mergeTexts_cons readWhole_identitySchema read?_identityDocument rfl,
    Merge.mergeTexts_cons readWhole_profileSchema read?_profileDocument rfl]
  rfl

/-- The schema of users is the merged document in indented form. -/
lemma userSchema_eq : userSchema = userDocument.indented := by
  delta userSchema userSchemaDocument
  rw [schemas_identity_profile]

/-! ## The schema compiled -/

/-- What the schema of users is compiled to: an object with these members and no others, of which
the id and the name are required. -/
def userConstraint : Compiled where
  root := .rules [.object]
    [.members [("id", .rules [.integer] []), ("email", .rules [.string, .null] []),
      ("name", .rules [.string] [])] [] .nothing, .requiredNames ["id", "name"]]
  definitions := []

/-- The schema of users with the members of every object in the order of reading. -/
def arrangedUserDocument : Json :=
  .obj [("type", .str "object"),
    ("properties", .obj [("id", .obj [("type", .str "integer")]),
      ("email", .obj [("type", .arr [.str "string", .str "null"])]),
      ("name", .obj [("type", .str "string")])]),
    ("additionalProperties", .bool false), ("required", .arr [.str "id", .str "name"])]

/-- The schema of users has its members in ascending order. -/
lemma settle_userDocument : userDocument.settle = userDocument := by rfl

/-- The order of reading puts the kind first and the required names last. -/
lemma arrange_userDocument : arrange userDocument = arrangedUserDocument := by rfl

/-- The schema of users holds no references and no identifiers. -/
lemma ofDocument_arrangedUserDocument :
    Directory.ofDocument arrangedUserDocument =
      (arrangedUserDocument, [("", arrangedUserDocument)]) := by rfl

/-- Keyword by keyword, the schema of users gives the constraint. -/
lemma compileWithin_arrangedUserDocument (d : Directory) :
    (compileWithin .mixed d (countReferences arrangedUserDocument) arrangedUserDocument).run
      ⟨[], []⟩ = .ok (userConstraint.root, ⟨[], []⟩) := by rfl

/-- The document of the schema of users compiles. -/
lemma ofDocument_userDocument : Compiled.ofDocument userDocument = .ok userConstraint := by
  have hedition : editionOf userDocument = .ok .mixed := by rfl
  rw [Compiled.ofDocument, hedition, settle_userDocument, arrange_userDocument,
    ofDocument_arrangedUserDocument]
  simp only [bind, Except.bind, compileWithin_arrangedUserDocument]
  rfl

/-- **The schema of users compiles** to `userConstraint`. -/
theorem compileText_userSchema : compileText userSchema.toList = .ok userConstraint := by
  have hread : readFirst userDocument.indented.toList = some userDocument :=
    readFirst_indented (by simp [userDocument, WellFormed, WellFormed.wellFormedItems,
      WellFormed.wellFormedMembers]) (by decide)
  rw [userSchema_eq]
  exact compileText_of_readFirst hread ofDocument_userDocument

/-! ## Users satisfy their schema -/

/-- Only texts are of the kind of texts. -/
lemma kindOf_eq_string_iff (v : Json) : Kind.of v = .string ↔ ∃ s, v = .str s := by
  cases v with
  | num n => simp only [Kind.of]; split <;> simp
  | _ => simp [Kind.of]

/-- Only null is of the kind of null. -/
lemma kindOf_eq_null_iff (v : Json) : Kind.of v = .null ↔ v = .null := by
  cases v with
  | num n => simp only [Kind.of]; split <;> simp
  | _ => simp [Kind.of]

/-- Apart from numbers, a kind admits itself alone. -/
lemma admits_iff {k given : Kind} (hk : k ≠ .number) : k.admits given = true ↔ given = k := by
  simp only [Kind.admits, hk, decide_false, Bool.false_and, Bool.or_false, decide_eq_true_eq]
  exact eq_comm

section

variable (follow : Follow) (v : Json) (path : List String)

/-- Where an integer is asked for, integers are admitted. -/
lemma clean_integer :
    (check follow (.rules [.integer] []) v path).Clean ↔ Kind.of v = .integer := by
  simp [clean_rules, checkRules, admits_iff]

/-- Where a text is asked for, texts are admitted. -/
lemma clean_string :
    (check follow (.rules [.string] []) v path).Clean ↔ ∃ s, v = .str s := by
  simp [clean_rules, checkRules, admits_iff, kindOf_eq_string_iff]

/-- Where a text or null is asked for, texts and null are admitted. -/
lemma clean_string_null :
    (check follow (.rules [.string, .null] []) v path).Clean ↔ (∃ s, v = .str s) ∨ v = .null := by
  simp [clean_rules, checkRules, admits_iff, kindOf_eq_string_iff, kindOf_eq_null_iff]

end

/-- **The objects that satisfy the schema of users**: they have an integer under `id` and a text
under `name`, a text, null or nothing under `email`, and no other members.

**Proof sketch.** The rules of the schema are about the declared members and the required names, and
each of them has its own lemma. Put together, they say which members there are. -/
theorem clean_userConstraint (members : List (String × Json)) :
    (userConstraint.tally (.obj members)).Clean ↔
      (∃ v, lookup? members "id" = some v ∧ Kind.of v = .integer) ∧
        (∃ s, lookup? members "name" = some (.str s)) ∧
        (∀ v, lookup? members "email" = some v → (∃ s, v = .str s) ∨ v = .null) ∧
        ∀ m ∈ members, m.1 = "id" ∨ m.1 = "email" ∨ m.1 = "name" := by
  obtain ⟨follow, hfollow⟩ := checkWithin_eq_check userConstraint.definitions
    (userConstraint.budget (.obj members))
  have hobject : Kind.object.admits (Kind.of (.obj members)) = true := rfl
  rw [Compiled.tally, hfollow, userConstraint, clean_rules]
  simp only [checkRules, List.mem_cons, List.not_mem_nil, or_false, forall_eq_or_imp, forall_eq,
    clean_members_nothing, clean_requiredNames, clean_integer, clean_string, clean_string_null,
    exists_eq_or_imp, exists_eq_left, hobject, or_true, true_and, Option.isSome_iff_exists]
  constructor
  · rintro ⟨⟨⟨hid, hemail, hname⟩, hdeclared⟩, ⟨v, hv⟩, w, hw⟩
    obtain ⟨s, rfl⟩ := hname w hw
    exact ⟨⟨v, hv, hid v hv⟩, ⟨s, hw⟩, hemail, fun m hm => (hdeclared m hm).imp Eq.symm
      fun h => h.imp Eq.symm Eq.symm⟩
  · rintro ⟨⟨v, hv, hinteger⟩, ⟨s, hs⟩, hemail, hdeclared⟩
    refine ⟨⟨⟨?_, hemail, ?_⟩, fun m hm => (hdeclared m hm).imp Eq.symm
      fun h => h.imp Eq.symm Eq.symm⟩, ⟨v, hv⟩, .str s, hs⟩
    · intro w hw
      obtain rfl : v = w := Option.some.inj (hv.symm.trans hw)
      exact hinteger
    · intro w hw
      exact ⟨s, Option.some.inj (hw.symm.trans hs)⟩

/-- The members of a user in ascending order of their names. -/
def User.sortedMembers (u : User) : List (String × Json) :=
  (u.email.map fun e => ("email", Json.str e)).toList ++
    [("id", .int u.id), ("name", .str u.name)]

/-- Sorting puts the address of a user first.

**Proof sketch.** By whether there is an address: the members are sorted by evaluation. -/
lemma User.settle_json (u : User) : u.json.settle = .obj u.sortedMembers := by
  obtain ⟨id, name, email⟩ := u
  have hname : ¬("name" < "id") ∧ "name" ≠ "id" := by decide
  have hemail : "email" < "id" := by decide
  cases email with
  | none =>
    simp only [User.json, User.sortedMembers, Option.map_none, Option.toList_none, List.append_nil,
      List.nil_append, settle, settle.settleMembers, Json.int, sortLast, List.foldl_cons,
      List.foldl_nil, insertSorted, hname, if_false]
  | some address =>
    simp only [User.json, User.sortedMembers, Option.map_some, Option.toList_some,
      List.cons_append, List.nil_append, settle, settle.settleMembers, Json.int, sortLast,
      List.foldl_cons, List.foldl_nil, insertSorted, hname, hemail, if_false, if_true]

/-- **Every user satisfies the schema of users.** -/
theorem judge_userConstraint (entity : String) (u : User) :
    userConstraint.judge entity u.json.settle = .ok () := by
  rw [judge_eq_ok_iff, User.settle_json, clean_userConstraint]
  obtain ⟨id, name, email⟩ := u
  have hinteger : Kind.of (.int id) = .integer := by
    simp [Kind.of, Json.int, Numeral.isInteger_ofInt]
  cases email <;> simp [User.sortedMembers, lookup?, hinteger]

/-! ## Reading users back -/

namespace Account

/-- The one number in the document of a user is written by the library. -/
lemma wellFormed_json (u : User) : u.json.WellFormed := by
  obtain ⟨id, name, email⟩ := u
  cases email <;>
    simp [User.json, WellFormed, WellFormed.wellFormedMembers, Json.int, Numeral.wellFormed_ofInt]

/-- The document of a user is an object of plain values. -/
lemma depth_json_le (u : User) : u.json.depth ≤ maxDepth := by
  obtain ⟨id, name, email⟩ := u
  cases email <;> simp [User.json, depth, depth.depthMembers, Json.int, maxDepth]

/-- Every text of an account starts with a brace. -/
lemma serialize_ne_nil (u : Account) : (serialize u).toList ≠ [] := by
  simp [serialize, compact, User.json, compactOn]

/-- **The text of an account is valid** under the schema of accounts. -/
theorem validate_serialize (u : Account) :
    validate accountEntity.name accountEntity.schema.toList (serialize u).toList = .ok () := by
  have hread : readFirst (serialize u).toList = some u.json :=
    readFirst_compact (wellFormed_json u) (depth_json_le u)
  exact (validate_eq_judge (serialize_ne_nil u) compileText_userSchema hread).trans
    (judge_userConstraint _ u)

/-- The three names of the members of a user differ by more than case. -/
lemma equalFold_memberNames :
    Text.equalFold "id" "name" = false ∧ Text.equalFold "id" "email" = false ∧
      Text.equalFold "name" "id" = false ∧ Text.equalFold "name" "email" = false ∧
      Text.equalFold "email" "id" = false ∧ Text.equalFold "email" "name" = false := by
  decide

/-- **What is read from the members of a user**: the id as a literal, the name, and the address if
there is one. -/
lemma readDraft_members (u : User) :
    readDraft ([("id", .int u.id), ("name", .str u.name)] ++
        (u.email.map fun e => ("email", Json.str e)).toList) =
      .ok ⟨some (.ofInt u.id), u.name, u.email⟩ := by
  obtain ⟨id, name, email⟩ := u
  cases email <;>
    simp [readDraft, fieldsNamed, equalFold_memberNames, readField, readText, readOptional, readId,
      Json.int, bind, Except.bind, pure, Except.pure]

/-- An integer in the 64-bit range is taken from its literal. -/
lemma integral_ofInt {i : Int} (h : inInt64 i = true) : integral (.ofInt i) = .ok i := by
  simp [integral, Numeral.int64?_ofInt h]

/-- **Accounts survive their text form.** The text of an account whose id lies in the 64-bit range
is valid and is read back as that account, also over an account with other properties; and it is the
text of the user with the same properties.

**Proof sketch.** The writer and the reader are inverse on the document, the compiled schema admits
it, and the id is taken from a plain literal, not through a double. -/
theorem deserialize_serialize (u : Account) (h : inInt64 u.id = true) (receiver : Account) :
    validate accountEntity.name accountEntity.schema.toList (serialize u).toList = .ok () ∧
      deserialize (serialize u).toList = .ok u ∧
      receiver.after (serialize u).toList = u ∧
      serialize u = (User.json ⟨u.id, u.name, u.email⟩).compact := by
  have hread : readWhole (serialize u).toList = some u.json :=
    readWhole_compact (wellFormed_json u) (depth_json_le u)
  have hdeserialize : deserialize (serialize u).toList = .ok u := by
    rw [deserialize, validate_serialize, hread, User.json]
    simp only [readDraft_members, integral_ofInt h, bind, Except.bind, pure, Except.pure]
  refine ⟨validate_serialize u, hdeserialize, ?_, rfl⟩
  rw [after, hdeserialize]

/-- The least id, a name of characters that are escaped, and an absent address that clears the
address of the receiver.

**Proof sketch.** The id is in the range, which is all that `deserialize_serialize` asks for. -/
theorem deserialize_serialize_least :
    inInt64 (-9223372036854775808) = true ∧
      deserialize (serialize ⟨-9223372036854775808, "<\"\n\\é>", none⟩).toList =
        .ok ⟨-9223372036854775808, "<\"\n\\é>", none⟩ ∧
      after ⟨1, "Ada", some "ada@example.com"⟩
          (serialize ⟨-9223372036854775808, "<\"\n\\é>", none⟩).toList =
        ⟨-9223372036854775808, "<\"\n\\é>", none⟩ := by
  have hid : inInt64 (-9223372036854775808) = true := by decide
  obtain ⟨-, hdeserialize, hafter, -⟩ :=
    deserialize_serialize ⟨-9223372036854775808, "<\"\n\\é>", none⟩ hid
      ⟨1, "Ada", some "ada@example.com"⟩
  exact ⟨hid, hdeserialize, hafter⟩

end Account

end SchemaKit
