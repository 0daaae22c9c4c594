import SchemaKit.Proofs.Users.RoundTrip
import SchemaKit.Proofs.Validation.Agreement

/-!
# The history of an account

An account is changed only by calls that read a text, and only if the text is read to the end: it is
validated, its members are read, and its id is turned into an integer before any property is set. So
an account shows what the last text that was read says, and nothing of what was there before.

## Main definitions

* `SchemaKit.Account.Call`, `SchemaKit.Account.Reply` — the calls on an account, and what they give.
* `SchemaKit.Account.afterAll`, `SchemaKit.Account.exchanges` — the account after several calls, and
  the calls with their replies.
* `SchemaKit.Account.textRead?` — the text of a call that succeeded in reading one.
* `SchemaKit.Account.Told` — the properties that a text gives, each of them read over nothing.

## Main results

* `SchemaKit.Account.validate_ne_undecidable` — the validation of accounts never breaks down.
* `SchemaKit.Account.deserialize_cases` — a text is refused as a failure to parse, or determines the
  account.
* `SchemaKit.Account.apply_cases` — what one call does to an account.
* `SchemaKit.Account.state_after` — what any calls do.
-/

namespace SchemaKit

open Json Validation

/-! ## Every text is judged -/

/-- Under a schema that is judged for every document, the validation comes to a verdict about every
text.

**Proof sketch.** The verdict is open only if the tally is broken, and every other failure has its
own name. -/
lemma Validation.validate_ne_undecidable_of_broken {schema : List Char} {c : Compiled}
    (hc : compileText schema = .ok c) (hbroken : ∀ doc, (c.tally doc).broken = false)
    (entity : String) (body : List Char) : validate entity schema body ≠ .error .undecidable := by
  unfold validate
  simp only [hc, bind, Except.bind]
  split
  · rintro ⟨⟩
  · split
    · rintro ⟨⟩
    · rw [Compiled.judge, hbroken]
      simp only [Bool.false_eq_true, if_false]
      split <;> rintro ⟨⟩

section

variable (follow : Follow) (path : List String)

/-- Kinds alone are judged for every document. -/
lemma broken_kinds (kinds : List Kind) (v : Json) :
    (check follow (.rules kinds []) v path).broken = false := by
  rw [check]
  split <;> rfl

/-- Properties that ask for kinds alone are judged for every object.

**Proof sketch.** Induction on the properties: each member is compared with the kinds of its
property. -/
lemma broken_checkProperties {properties : List (String × Constraint)}
    (h : ∀ p ∈ properties, ∃ kinds, p.2 = .rules kinds []) (members : List (String × Json)) :
    ∀ t ∈ checkProperties follow properties members path, t.broken = false := by
  induction properties with
  | nil => simp [checkProperties]
  | cons p rest ih =>
    rw [List.forall_mem_cons] at h
    obtain ⟨⟨kinds, hkinds⟩, hrest⟩ := h
    rw [checkProperties]
    split
    · rw [List.forall_mem_cons, hkinds]
      exact ⟨broken_kinds follow _ kinds _, ih hrest⟩
    · exact ih hrest

/-- Properties that ask for kinds alone and admit no others are judged for every document.

**Proof sketch.** The declared members are judged by `broken_checkProperties`, and each of the
others is refused at once. -/
lemma broken_members {properties : List (String × Constraint)}
    (h : ∀ p ∈ properties, ∃ kinds, p.2 = .rules kinds []) (v : Json) :
    (checkRule follow (.members properties [] .nothing) v path).broken = false := by
  cases v with
  | obj members =>
    have hdeclared : (Tally.sum (checkProperties follow properties members path)).broken = false := by
      rw [Tally.broken_sum, List.any_eq_false]
      simpa using broken_checkProperties follow path h members
    simp only [checkRule, Tally.add, hdeclared, Bool.false_or, Tally.broken_sum, List.any_map,
      List.any_eq_false, Function.comp_apply]
    rintro ⟨k, v⟩ -
    simp only [checkPatterns, List.isEmpty_nil, Bool.not_true, Bool.false_eq_true, if_false,
      checkRest]
    split <;> simp [Tally.zero, Tally.fault]
  | _ => rfl

/-- Required names are judged for every document. -/
lemma broken_requiredNames (names : List String) (v : Json) :
    (checkRule follow (.requiredNames names) v path).broken = false := by
  cases v with
  | obj members =>
    simp only [checkRule, checkRequired, Tally.broken_sum, List.any_map, List.any_eq_false,
      Function.comp_apply]
    intro name _
    split <;> simp [Tally.points, Tally.fault]
  | _ => rfl

end

/-- The schema of users is judged for every document.

**Proof sketch.** The tally of the schema is that of its kinds, of its members and of its required
names, and none of these is broken. -/
lemma broken_userConstraint (doc : Json) : (userConstraint.tally doc).broken = false := by
  obtain ⟨follow, hfollow⟩ := checkWithin_eq_check userConstraint.definitions
    (userConstraint.budget doc)
  rw [Compiled.tally, hfollow, userConstraint, check]
  split
  · have hkinds : ∀ p ∈ [("id", Constraint.rules [.integer] []), ("email", .rules [.string, .null] []),
        ("name", .rules [.string] [])], ∃ kinds, p.2 = .rules kinds [] := by simp
    have hmembers := broken_members follow [] hkinds doc
    have hrequired := broken_requiredNames follow [] ["id", "name"] doc
    simp only [checkRules, Tally.add, Tally.broken_sum, List.any_cons, List.any_nil, hmembers,
      hrequired]
    rfl
  · rfl

namespace Account

/-- The validation of accounts comes to a verdict about every text. -/
lemma validate_ne_undecidable (text : List Char) :
    validate accountEntity.name accountEntity.schema.toList text ≠ .error .undecidable :=
  validate_ne_undecidable_of_broken compileText_userSchema broken_userConstraint _ text

/-! ## Reading a text -/

section

variable {r : Refusal}

/-- A refusal because of an id that is not a number is a failure to parse.

**Proof sketch.** Induction on the members: the first one that is refused is refused as malformed. -/
lemma isParse_of_readId {vs : List Json} {old : Option Numeral × Bool}
    (h : vs.foldlM readId old = .error r) : r.isParse = true := by
  induction vs generalizing old with
  | nil => cases h
  | cons v rest ih =>
    rw [List.foldlM_cons] at h
    cases hv : readId old v with
    | ok next =>
      rw [hv] at h
      exact ih h
    | error r' =>
      rw [hv] at h
      cases h
      unfold readId at hv
      split at hv <;> try cases hv
      split at hv <;> cases hv
      rfl

/-- A refusal because of the members is a failure to parse. -/
lemma isParse_of_readDraft {members : List (String × Json)} (h : readDraft members = .error r) :
    r.isParse = true := by
  unfold readDraft at h
  split at h
  · next r' hid =>
    cases h
    exact isParse_of_readId hid
  · dsimp only at h
    split at h <;> cases h
    rfl

/-- A refusal because of the value of the id is a failure to parse.

**Proof sketch.** By the cases of the conversion. -/
lemma isParse_of_integral {n : Numeral} (h : integral n = .error r) : r.isParse = true := by
  unfold integral at h
  split at h
  · cases h
  · split at h
    · cases h
      rfl
    · dsimp only at h
      split at h
      · cases h
        rfl
      · split_ifs at h <;> cases h <;> rfl

end

/-- The properties of an account as a text gives them: the text is an object and nothing else, and
each property is what the members of its name say, read over nothing. In particular there is no
address if there is no member for it. -/
def Told (text : List Char) (a : Account) : Prop :=
  ∃ members n, readWhole text = some (.obj members) ∧
    (fieldsNamed members "id").foldlM readId (none, true) = .ok (some n, true) ∧
    integral n = .ok a.id ∧
    readField readText "" (fieldsNamed members "name") = ⟨a.name, true⟩ ∧
    readField readOptional none (fieldsNamed members "email") = ⟨a.email, true⟩

/-- A text gives the properties of one account only.

**Proof sketch.** Both accounts are read from the same members. -/
lemma Told.unique {text : List Char} {a b : Account} (ha : Told text a) (hb : Told text b) :
    b = a := by
  obtain ⟨members, n, hread, hid, hn, hname, hemail⟩ := ha
  obtain ⟨members', n', hread', hid', hn', hname', hemail'⟩ := hb
  obtain rfl : members = members' := by simpa [hread] using hread'
  obtain rfl : n = n' := by simpa [hid] using hid'
  have hsame : a.id = b.id ∧ a.name = b.name ∧ a.email = b.email := by
    simp_all
  obtain ⟨id, name, email⟩ := a
  obtain ⟨id', name', email'⟩ := b
  obtain ⟨rfl, rfl, rfl⟩ := hsame
  rfl

/-- What is read from members, each property over nothing.

**Proof sketch.** By the cases of the reading: it succeeds only if all three fields fit. -/
lemma readDraft_eq_ok {members : List (String × Json)} {draft : Draft}
    (h : readDraft members = .ok draft) :
    (fieldsNamed members "id").foldlM readId (none, true) = .ok (draft.id, true) ∧
      readField readText "" (fieldsNamed members "name") = ⟨draft.name, true⟩ ∧
      readField readOptional none (fieldsNamed members "email") = ⟨draft.email, true⟩ := by
  unfold readDraft at h
  split at h
  · cases h
  · next id fits hid =>
    dsimp only at h
    split at h
    · next hfits =>
      cases h
      simp only [Bool.and_eq_true] at hfits
      obtain ⟨⟨rfl, hname⟩, hemail⟩ := hfits
      exact ⟨hid, by rw [← hname], by rw [← hemail]⟩
    · cases h

/-- **What comes of a text**: it is refused as a failure to parse, by the validation, for its members
or for the value of its id; or it gives the properties of an account.

**Proof sketch.** By the steps of the reading, one after the other. The validation never leaves the
verdict open, by `validate_ne_undecidable`, so every failure is one to parse. -/
lemma deserialize_cases (text : List Char) :
    (∃ r, deserialize text = .error r ∧ r.isParse = true) ∨
      ∃ a, deserialize text = .ok a ∧ Told text a := by
  cases hvalid : validate accountEntity.name accountEntity.schema.toList text with
  | error rejection =>
    refine .inl ⟨.rejected rejection, by rw [deserialize, hvalid]; rfl, ?_⟩
    cases rejection with
    | undecidable => exact absurd hvalid (validate_ne_undecidable text)
    | _ => rfl
  | ok =>
    cases hread : readWhole text with
    | none => exact .inl ⟨.malformed, by rw [deserialize, hvalid, hread]; rfl, rfl⟩
    | some doc =>
      cases doc with
      | obj members =>
        cases hdraft : readDraft members with
        | error r =>
          refine .inl ⟨r, ?_, isParse_of_readDraft hdraft⟩
          rw [deserialize, hvalid, hread]
          simp only [hdraft, bind, Except.bind]
        | ok draft =>
          obtain ⟨hid, hname, hemail⟩ := readDraft_eq_ok hdraft
          obtain ⟨id?, name, email⟩ := draft
          cases id? with
          | none =>
            refine .inl ⟨.malformed, ?_, rfl⟩
            rw [deserialize, hvalid, hread]
            simp only [hdraft, bind, Except.bind]
            rfl
          | some n =>
            cases hn : integral n with
            | error r =>
              refine .inl ⟨r, ?_, isParse_of_integral hn⟩
              rw [deserialize, hvalid, hread]
              simp only [hdraft, hn, bind, Except.bind]
            | ok id =>
              refine .inr ⟨⟨id, name, email⟩, ?_, members, n, hread, hid, hn, hname, hemail⟩
              rw [deserialize, hvalid, hread]
              simp only [hdraft, hn, bind, Except.bind, pure, Except.pure]
      | _ => exact .inl ⟨.malformed, by rw [deserialize, hvalid, hread]; rfl, rfl⟩

/-! ## Calls -/

/-- A call on an account. -/
inductive Call where
  | deserialize (text : List Char)
  | unmarshal (text : List Char)
  | serialize
  | marshal
  | greet
  | farewell
  | contactEmail
  | toUser

/-- What a call gives: that a text was read, or why it was not; a text; an address and whether there
is one; or a user. -/
inductive Reply where
  | done
  | refused (r : Refusal)
  | text (t : String)
  | address (email : String × Bool)
  | user (u : User)

/-- The account after a call, and the reply. -/
def Call.apply (a : Account) : Call → Account × Reply
  | .deserialize text | .unmarshal text =>
    (a.after text,
      match Account.deserialize text with
      | .ok _ => .done
      | .error r => .refused r)
  | .serialize | .marshal => (a, .text a.serialize)
  | .greet => (a, .text a.greet)
  | .farewell => (a, .text a.farewell)
  | .contactEmail => (a, .address a.contactEmail)
  | .toUser => (a, .user a.toUser)

/-- The account after calls one after the other. -/
def afterAll (a : Account) : List Call → Account
  | [] => a
  | call :: rest => (call.apply a).1.afterAll rest

/-- Calls one after the other, each with its reply. -/
def exchanges (a : Account) : List Call → List (Call × Reply)
  | [] => []
  | call :: rest => (call, (call.apply a).2) :: (call.apply a).1.exchanges rest

/-- The text of a call that succeeded in reading one. -/
def textRead? : Call × Reply → Option (List Char)
  | (.deserialize text, .done) | (.unmarshal text, .done) => some text
  | _ => none

/-- **What one call does.** If it succeeds in reading a text, the account is what the text gives;
otherwise the account stays as it is, and a refusal is a failure to parse.

**Proof sketch.** By the call: the two that read a text are decided by `deserialize_cases`, and the
others change nothing. -/
lemma apply_cases (a : Account) (call : Call) :
    (∃ text, textRead? (call, (call.apply a).2) = some text ∧ Told text (call.apply a).1) ∨
      textRead? (call, (call.apply a).2) = none ∧ (call.apply a).1 = a ∧
        ∀ r, (call.apply a).2 = .refused r → r.isParse = true := by
  cases call with
  | deserialize text | unmarshal text =>
    rcases deserialize_cases text with ⟨r, hr, hparse⟩ | ⟨b, hb, htold⟩
    · refine .inr ⟨?_, ?_, ?_⟩
      · simp only [Call.apply, hr, textRead?]
      · simp only [Call.apply, after, hr]
      · simp only [Call.apply, hr, Reply.refused.injEq, forall_eq']
        exact hparse
    · refine .inl ⟨text, ?_, ?_⟩
      · simp only [Call.apply, hb, textRead?]
      · simp only [Call.apply, after, hb]
        exact htold
  | _ =>
    -- calls that read no text have no part in the account, and none of them is refused
    refine .inr ⟨rfl, rfl, fun r hr => ?_⟩
    simp only [Call.apply, reduceCtorEq] at hr

/-- The account after calls and further ones. -/
lemma afterAll_append (a : Account) (calls more : List Call) :
    a.afterAll (calls ++ more) = (a.afterAll calls).afterAll more := by
  induction calls generalizing a with
  | nil => rfl
  | cons call rest ih => exact ih _

/-- **Along any calls** an account stays as it is, or becomes what the last text that was read
gives.

**Proof sketch.** Induction on the calls. If a later call reads a text, that one decides; if none
does, the first call decides by `apply_cases`. -/
lemma afterAll_cases (a : Account) (calls : List Call) :
    ((a.exchanges calls).filterMap textRead? = [] ∧ a.afterAll calls = a) ∨
      ∃ text, ((a.exchanges calls).filterMap textRead?).getLast? = some text ∧
        Told text (a.afterAll calls) := by
  induction calls generalizing a with
  | nil => exact .inl ⟨rfl, rfl⟩
  | cons call rest ih =>
    rw [afterAll, exchanges, List.filterMap_cons]
    rcases ih (call.apply a).1 with ⟨hnone, hsame⟩ | ⟨text, hlast, htold⟩
    · rcases apply_cases a call with ⟨text, htext, htold⟩ | ⟨htext, hstate, -⟩
      · exact .inr ⟨text, by simp only [htext, hnone, List.getLast?_singleton], by rwa [hsame]⟩
      · exact .inl ⟨by simp only [htext, hnone], by rw [hsame, hstate]⟩
    · refine .inr ⟨text, ?_, htold⟩
      split
      · exact hlast
      · rw [List.getLast?_cons, hlast, Option.getD_some]

/-- **The account after any calls.** If none of them succeeded in reading a text, it is what it was.
Otherwise it has the properties that the last text that was read gives, and these depend on nothing
else. A call that is refused is a failure to parse and leaves the account as it is.

**Proof sketch.** By induction on the calls: a call either puts the properties that its text gives in
the place of all that was there, or changes nothing. -/
theorem state_after (a : Account) (calls : List Call) :
    ((a.exchanges calls).filterMap textRead? = [] → a.afterAll calls = a) ∧
      (∀ text, ((a.exchanges calls).filterMap textRead?).getLast? = some text →
        Told text (a.afterAll calls) ∧ ∀ b, Told text b → b = a.afterAll calls) ∧
      ∀ before call rest r, calls = before ++ call :: rest →
        (call.apply (a.afterAll before)).2 = .refused r →
          r.isParse = true ∧ a.afterAll (before ++ [call]) = a.afterAll before := by
  refine ⟨fun hnone => ?_, fun text hlast => ?_, ?_⟩
  · rcases afterAll_cases a calls with ⟨-, hsame⟩ | ⟨text, hlast, -⟩
    · exact hsame
    · rw [hnone] at hlast
      cases hlast
  · rcases afterAll_cases a calls with ⟨hnone, -⟩ | ⟨text', hlast', htold⟩
    · rw [hnone] at hlast
      cases hlast
    · obtain rfl : text = text' := Option.some.inj (hlast.symm.trans hlast')
      exact ⟨htold, fun b hb => htold.unique hb⟩
  · rintro before call rest r - hrefused
    rw [afterAll_append]
    rcases apply_cases (a.afterAll before) call with ⟨text, htext, -⟩ | ⟨-, hstate, hparse⟩
    · rw [hrefused] at htext
      unfold textRead? at htext
      split at htext <;> simp_all
    · exact ⟨hparse r hrefused, hstate⟩

/-- An account with an address. -/
def ada : Account := ⟨1, "Ada", some "ada@example.com"⟩

/-- A text without an address, with the id written as a decimal fraction. -/
def bobText : List Char := "\x7b\"name\":\"Bob\",\"id\":2.0\x7d".toList

/-- After a text without an address the address is gone, and a text that is no document changes
nothing, neither after the other text nor on its own.

**Proof sketch.** The texts are read by evaluation, and what follows is `state_after`. -/
theorem state_after_bob :
    ((ada.exchanges [.deserialize bobText, .greet, .unmarshal ['x']]).filterMap
        textRead?).getLast? = some bobText ∧
      ada.afterAll [.deserialize bobText, .greet, .unmarshal ['x']] = ⟨2, "Bob", none⟩ ∧
      (Call.apply (ada.afterAll [.deserialize bobText, .greet]) (.unmarshal ['x'])).2 =
        .refused (.rejected .unreadableBody) ∧
      ada.afterAll [.deserialize bobText, .greet, .unmarshal ['x']] =
        ada.afterAll [.deserialize bobText, .greet] ∧
      (ada.exchanges [.unmarshal ['x']]).filterMap textRead? = [] ∧
      ada.afterAll [.unmarshal ['x']] = ada := by
  have hx : deserialize ['x'] = .error (.rejected .unreadableBody) := by
    have hvalid : validate accountEntity.name accountEntity.schema.toList ['x'] =
        .error .unreadableBody := by
      rw [validate, show compileText accountEntity.schema.toList = .ok userConstraint from
        compileText_userSchema]
      rfl
    rw [deserialize, hvalid]
    rfl
  have hbob : deserialize bobText = .ok ⟨2, "Bob", none⟩ := by
    have hvalid : validate accountEntity.name accountEntity.schema.toList bobText = .ok () := by
      have hread : readFirst bobText =
          some (.obj [("name", .str "Bob"), ("id", .num ⟨false, ['2'], some ['0'], none⟩)]) := by rfl
      exact validate_eq_judge (by decide) compileText_userSchema hread
    rw [deserialize, hvalid]
    rfl
  have htold : Told bobText ⟨2, "Bob", none⟩ := by
    rcases deserialize_cases bobText with ⟨r, hr, -⟩ | ⟨a, ha, htold⟩
    · rw [hbob] at hr
      cases hr
    · rw [hbob] at ha
      rwa [← Except.ok.inj ha] at htold
  have hlast : ((ada.exchanges [.deserialize bobText, .greet, .unmarshal ['x']]).filterMap
      textRead?).getLast? = some bobText := by
    simp only [exchanges, Call.apply, hbob, hx, List.filterMap_cons, List.filterMap_nil, textRead?,
      List.getLast?_singleton]
  have hrefused : (Call.apply (ada.afterAll [.deserialize bobText, .greet]) (.unmarshal ['x'])).2 =
      .refused (.rejected .unreadableBody) := by
    simp only [Call.apply, hx]
  have hnone : (ada.exchanges [.unmarshal ['x']]).filterMap textRead? = [] := by
    simp only [exchanges, Call.apply, hx, List.filterMap_cons, List.filterMap_nil, textRead?]
  have hstate := state_after ada [.deserialize bobText, .greet, .unmarshal ['x']]
  exact ⟨hlast, ((hstate.2.1 bobText hlast).2 _ htold).symm, hrefused,
    (hstate.2.2 [.deserialize bobText, .greet] (.unmarshal ['x']) [] _ rfl hrefused).2, hnone,
    (state_after ada [.unmarshal ['x']]).1 hnone⟩

end Account

end SchemaKit
