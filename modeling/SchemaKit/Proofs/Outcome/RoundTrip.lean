import SchemaKit.Outcome
import SchemaKit.Proofs.Json.Canonical
import SchemaKit.Proofs.Json.Depth
import SchemaKit.Proofs.Users.RoundTrip

/-!
# Outcomes survive their document form

An outcome travels as an object that says which of the two it is and carries the document of its
value or of its error. A codec keeps a value if it reads the value back from what it writes. The
codec of outcomes keeps an outcome as soon as the codec of its content keeps the content, so that
the law passes on to outcomes inside of outcomes.

In the other direction, a codec restores a document if what it reads from the document can be
written, and is read back from what was written. The codecs of plain values restore every document,
except that null is read as a role which cannot be written.

As texts, documents are limited in depth. An outcome adds one level to the document of its content,
so the law for texts holds up to that limit and not beyond.

## Main definitions

* `SchemaKit.Codec.Keeps` — a value is read back from what is written for it.
* `SchemaKit.Codec.Restores` — what is read from a document can be written and is read back.
* `SchemaKit.Outcome.Reencodes` — the same for the outcome in a text.

## Main results

* `SchemaKit.Outcome.keeps_codec` — outcomes are kept if their contents are.
* `SchemaKit.Outcome.readText_compact_iff` — outcomes survive their texts unless they are nested too
  deep.
* `SchemaKit.Outcome.restores_codec` — documents of outcomes are restored if their contents are.
* `SchemaKit.Outcome.reencodes_iff` — what is read from a text can be written again, unless it is a
  role that was read from null.
-/

namespace SchemaKit

open Json

variable {α ε : Type}

namespace Codec

/-- What is written for a value is a well-formed document, and the value is read back from it. -/
def Keeps (c : Codec α) (a : α) : Prop :=
  ∀ v, c.write a = .ok v → v.WellFormed ∧ c.read v = .ok a

/-- What is read from a document can be written, and is read back from what is written. The written
document is not deeper than the one before, or not deeper than `k`. -/
def Restores (c : Codec α) (k : Nat) (v : Json) : Prop :=
  ∀ a, c.read v = .ok a →
    ∃ w, c.write a = .ok w ∧ w.WellFormed ∧ c.read w = .ok a ∧ w.depth ≤ max v.depth k

/-! ## Plain values -/

/-- Reading succeeds iff everything fitted. -/
lemma ofProgress_eq_ok_iff {p : Progress α} {a : α} :
    ofProgress p = .ok a ↔ p.fits = true ∧ p.value = a := by
  unfold ofProgress
  split
  · next h => simp [h]
  · next h => simp [h]

/-- An integer in the 64-bit range is kept. -/
lemma keeps_int {i : Int} (h : inInt64 i = true) : int.Keeps i := by
  rintro v ⟨⟩
  refine ⟨Numeral.wellFormed_ofInt i, ?_⟩
  simp [int, Json.int, ofProgress, readInt, Numeral.int64?_ofInt h]

/-- A text is kept. -/
lemma keeps_text (s : String) : text.Keeps s := by
  rintro v ⟨⟩
  exact ⟨trivial, rfl⟩

/-- A user whose id is in the 64-bit range is kept. -/
lemma keeps_user {u : User} (h : inInt64 u.id = true) : user.Keeps u := by
  rintro v ⟨⟩
  refine ⟨Account.wellFormed_json u, ?_⟩
  obtain ⟨id, name, email⟩ := u
  have hid : (Numeral.ofInt id).int64? = some id := Numeral.int64?_ofInt h
  cases email <;>
    simp [user, User.json, User.read, User.readMembers, fieldsNamed, Account.equalFold_memberNames,
      readField, readInt, Json.readText, readOptional, ofProgress, Json.int, hid, User.blank]

/-- A known role is kept. -/
lemma keeps_role {r : Role} (h : r.isValid = true) : role.Keeps r := by
  have hknown : r = .admin ∨ r = .editor ∨ r = .viewer := by
    simpa [Role.isValid, Role.all] using h
  intro v hv
  rcases hknown with rfl | rfl | rfl
  all_goals
    cases hv
    exact ⟨trivial, by rfl⟩

/-- A value in canonical form is kept. -/
lemma keeps_any {v : Json} (h : Canonical v) : any.Keeps v := by
  rintro w ⟨⟩
  exact ⟨h.wellFormed, by simp [any, h.canonical?_eq]⟩

/-- Whatever the members of an integer are, it stays in the 64-bit range.

**Proof sketch.** Induction on the members: a number takes the place of the value only if it is in
the range. -/
lemma inInt64_readField {start : Int} (hstart : inInt64 start = true) (vs : List Json) :
    inInt64 (readField readInt start vs).value = true := by
  refine List.foldlRecOn vs _ (motive := fun p : Progress Int => inInt64 p.value = true) hstart ?_
  intro p hp v _
  cases v with
  | num n =>
    simp only [readInt]
    split
    · next i hi =>
      rw [Numeral.int64?, Option.filter_eq_some_iff] at hi
      exact hi.2
    · exact hp
  | _ => exact hp

/-- A codec that keeps all values which it reads, and writes them less deep than `k`, restores every
document. -/
lemma restores_of_keeps {c : Codec α} {k : Nat} {v : Json}
    (h : ∀ a, c.read v = .ok a →
      c.Keeps a ∧ ∃ w, c.write a = .ok w ∧ w.depth ≤ max v.depth k) : c.Restores k v := by
  intro a ha
  obtain ⟨hkeeps, w, hw, hdepth⟩ := h a ha
  exact ⟨w, hw, (hkeeps w hw).1, (hkeeps w hw).2, hdepth⟩

/-- A codec that restores a document up to some depth does so up to a greater depth. -/
lemma restores_mono {c : Codec α} {k l : Nat} (hkl : k ≤ l) {v : Json} (h : c.Restores k v) :
    c.Restores l v := by
  intro a ha
  obtain ⟨w, hw, hwf, hread, hdepth⟩ := h a ha
  exact ⟨w, hw, hwf, hread, hdepth.trans (max_le_max_left _ hkl)⟩

/-- Documents of integers are restored. -/
lemma restores_int (v : Json) : int.Restores 0 v := by
  refine restores_of_keeps fun i hi => ⟨keeps_int ?_, .int i, rfl, Nat.zero_le _⟩
  obtain ⟨-, rfl⟩ := ofProgress_eq_ok_iff.1 hi
  exact inInt64_readField (by decide) [v]

/-- Documents of texts are restored. -/
lemma restores_text (v : Json) : text.Restores 0 v :=
  restores_of_keeps fun s _ => ⟨keeps_text s, .str s, rfl, Nat.zero_le _⟩

/-- Documents of users are restored. What is read from null is a user without properties, so the
written document may be deeper. -/
lemma restores_user (v : Json) : user.Restores 1 v := by
  refine restores_of_keeps fun u hu => ⟨keeps_user ?_, u.json, rfl, ?_⟩
  · obtain ⟨-, rfl⟩ := ofProgress_eq_ok_iff.1 hu
    have hzero : inInt64 0 = true := by decide
    cases v with
    | obj members => exact inInt64_readField hzero _
    | _ => exact hzero
  · obtain ⟨id, name, email⟩ := u
    cases email <;> simp [User.json, depth, depth.depthMembers, Json.int]

/-- Documents of roles are restored, apart from null: it is read as the empty tag, which is not the
tag of a role.

**Proof sketch.** A role is read from its own tag, which is valid, and a valid tag is written as it
is. -/
lemma restores_role {v : Json} (h : v ≠ .null) : role.Restores 0 v := by
  refine restores_of_keeps fun r hr => ?_
  cases v with
  | null => exact absurd rfl h
  | str s =>
    have hvalid : r.isValid = true := by
      simp only [role, Role.parse] at hr
      split at hr
      · next hs =>
        cases hr
        exact hs
      · cases hr
    refine ⟨keeps_role hvalid, .str r.text, ?_, Nat.zero_le _⟩
    simp [role, Role.write, hvalid, Except.map]
  | _ => cases hr

/-- All documents are restored in canonical form. -/
lemma restores_any (v : Json) : any.Restores 0 v := by
  refine restores_of_keeps fun w hw => ?_
  simp only [any] at hw
  split at hw
  · next u hu =>
    obtain rfl := Except.ok.inj hw
    obtain ⟨hcanonical, hdepth⟩ := canonical_of_canonical? hu
    exact ⟨keeps_any hcanonical, u, rfl, le_max_of_le_left hdepth⟩
  · cases hw

end Codec

namespace Outcome

/-! ## Documents of outcomes -/

/-- A property of the value or of the error that an outcome has. -/
def Holds (P : α → Prop) (Q : ε → Prop) : Outcome α ε → Prop
  | ok a => P a
  | fail e => Q e

/-- The names of the members of an outcome differ by more than case. -/
lemma equalFold_outcomeNames :
    Text.equalFold "ok" "value" = false ∧ Text.equalFold "ok" "error" = false ∧
      Text.equalFold "value" "ok" = false ∧ Text.equalFold "value" "error" = false ∧
      Text.equalFold "error" "ok" = false ∧ Text.equalFold "error" "value" = false := by
  decide

/-- The members of the document of a value. -/
lemma members?_value (v : Json) :
    members? (.obj [("ok", .bool true), ("value", v)]) = some ⟨some true, some v, none⟩ := by
  simp [members?, fieldsNamed, equalFold_outcomeNames, readField, readFlag]

/-- The members of the document of an error. -/
lemma members?_error (v : Json) :
    members? (.obj [("ok", .bool false), ("error", v)]) = some ⟨some false, none, some v⟩ := by
  simp [members?, fieldsNamed, equalFold_outcomeNames, readField, readFlag]

/-- The document of a value is one level deeper than the value's, and well formed if that is. -/
lemma wrapped_value (v : Json) :
    ((Json.obj [("ok", .bool true), ("value", v)]).WellFormed ↔ v.WellFormed) ∧
      (Json.obj [("ok", .bool true), ("value", v)]).depth = v.depth + 1 := by
  simp [WellFormed, WellFormed.wellFormedMembers, depth, depth.depthMembers]

/-- The document of an error is one level deeper than the error's, and well formed if that is. -/
lemma wrapped_error (v : Json) :
    ((Json.obj [("ok", .bool false), ("error", v)]).WellFormed ↔ v.WellFormed) ∧
      (Json.obj [("ok", .bool false), ("error", v)]).depth = v.depth + 1 := by
  simp [WellFormed, WellFormed.wellFormedMembers, depth, depth.depthMembers]

variable {value : Codec α} {error : Codec ε}

/-- **Outcomes are kept if their contents are**, so that outcomes inside of outcomes are kept as
well.

**Proof sketch.** By the two outcomes. The document of an outcome is the flag and the document of
its contents, and the flag tells which of the two is read back. -/
theorem keeps_codec {r : Outcome α ε} (h : r.Holds value.Keeps error.Keeps) :
    (codec value error).Keeps r := by
  intro doc hdoc
  cases r with
  | ok a =>
    simp only [codec, write] at hdoc
    cases hw : value.write a with
    | error u => simp [hw, Except.map] at hdoc
    | ok v =>
      rw [hw] at hdoc
      cases hdoc
      obtain ⟨hwf, hread⟩ := h v hw
      refine ⟨(wrapped_value v).1.2 hwf, ?_⟩
      simp only [codec, read, members?_value, hread]
  | fail e =>
    simp only [codec, write] at hdoc
    cases hw : error.write e with
    | error u => simp [hw, Except.map] at hdoc
    | ok v =>
      rw [hw] at hdoc
      cases hdoc
      obtain ⟨hwf, hread⟩ := h v hw
      refine ⟨(wrapped_error v).1.2 hwf, ?_⟩
      simp only [codec, read, members?_error, hread]

/-- What is read from the text of a document, if the text can be read.

**Proof sketch.** A well-formed document is read back from its text iff it is not too deep. -/
lemma readText_compact {doc : Json} (hwf : doc.WellFormed) :
    readText value error doc.compact.toList =
      if doc.depth ≤ maxDepth then read value error doc else .error (.inside "result" .malformed) := by
  split
  · next hd => rw [readText, readWhole_compact hwf hd]
  · next hd =>
    have hnone : readWhole doc.compact.toList = none := by
      rw [Option.eq_none_iff_forall_ne_some]
      exact fun w hw => hd ((readWhole_compact_eq_some_iff hwf).1 hw).2
    rw [readText, hnone]

/-- **Outcomes survive their texts unless they are nested too deep.** Let the content of an outcome
be kept by its codec. Then the outcome is kept by the codec of outcomes, and its text, if it has one,
is read back as the outcome, over any outcome that was there before, exactly if the document is not
nested deeper than a text may be.

**Proof sketch.** The document of the outcome is well formed, so the reader gives it back exactly if
there is room for it; and from the document the outcome is read back. -/
theorem readText_compact_iff (r : Outcome α ε) (h : r.Holds value.Keeps error.Keeps) :
    (codec value error).Keeps r ∧
      ∀ doc, write value error r = .ok doc →
        ((readText value error doc.compact.toList = .ok r ∧
            ∀ old, after value error old doc.compact.toList = r) ↔ doc.depth ≤ maxDepth) := by
  refine ⟨keeps_codec h, fun doc hdoc => ?_⟩
  obtain ⟨hwf, hread⟩ := keeps_codec h doc hdoc
  have hread : read value error doc = .ok r := hread
  rw [readText_compact hwf]
  constructor
  · rintro ⟨htext, -⟩
    by_contra hd
    rw [if_neg hd] at htext
    cases htext
  · intro hd
    rw [if_pos hd]
    refine ⟨hread, fun old => ?_⟩
    simp only [after, readText_compact hwf, if_pos hd, hread]

/-- An outcome inside of an outcome: its text is read back over another outcome. -/
theorem readText_compact_iff_nested :
    (Outcome.ok (.fail "a\"b") : Outcome (Outcome Int String) User).Holds
        (codec Codec.int Codec.text).Keeps Codec.user.Keeps ∧
      after (codec Codec.int Codec.text) Codec.user (.fail ⟨7, "Ada", some "ada@example.com"⟩)
          (Json.obj [("ok", .bool true),
            ("value", .obj [("ok", .bool false), ("error", .str "a\"b")])]).compact.toList =
        .ok (.fail "a\"b") := by
  have hkeeps : (Outcome.ok (.fail "a\"b") : Outcome (Outcome Int String) User).Holds
      (codec Codec.int Codec.text).Keeps Codec.user.Keeps := keeps_codec (Codec.keeps_text "a\"b")
  have hiff := (readText_compact_iff _ hkeeps).2 _ rfl
  exact ⟨hkeeps, (hiff.2 (by decide)).2 _⟩

/-- Arrays one inside the other, `n` of them around an empty one. -/
def nest : Nat → Json
  | 0 => .arr []
  | n + 1 => .arr [nest n]

/-- Nested arrays are well formed, and as deep as their number says. -/
lemma nest_spec (n : Nat) : (nest n).WellFormed ∧ (nest n).depth = n + 1 := by
  induction n with
  | zero => exact ⟨trivial, rfl⟩
  | succ n ih =>
    refine ⟨⟨ih.1, trivial⟩, ?_⟩
    simp [nest, depth, depth.depthItems, ih.2]

/-- The one value of this codec is written as an array of the greatest depth that a text may
have. -/
def deepest : Codec Unit where
  blank := ()
  write _ := .ok (nest 9999)
  read _ := .ok ()

/-- A value that survives its own text, of the greatest depth, and does not survive it as the value
of an outcome.

**Proof sketch.** The value is written within the depth that can be read, and the outcome around it
one container deeper. -/
theorem deepest_not_read :
    (∀ a v, deepest.write a = .ok v →
        ∃ w, readWhole v.compact.toList = some w ∧ deepest.read w = .ok a) ∧
      (∀ a v, Codec.text.write a = .ok v →
        ∃ w, readWhole v.compact.toList = some w ∧ Codec.text.read w = .ok a) ∧
      write deepest Codec.text (.ok ()) =
        .ok (.obj [("ok", .bool true), ("value", nest 9999)]) ∧
      readText deepest Codec.text
          (Json.obj [("ok", .bool true), ("value", nest 9999)]).compact.toList ≠ .ok (.ok ()) := by
  obtain ⟨hwf, hdepth⟩ := nest_spec 9999
  refine ⟨?_, ?_, rfl, ?_⟩
  · rintro a v ⟨⟩
    exact ⟨nest 9999, readWhole_compact hwf hdepth.le, rfl⟩
  · rintro s v ⟨⟩
    exact ⟨.str s, readWhole_compact trivial (Nat.zero_le _), rfl⟩
  · obtain ⟨hwf', hdepth'⟩ := wrapped_value (nest 9999)
    have htoo : ¬(Json.obj [("ok", .bool true), ("value", nest 9999)]).depth ≤ maxDepth := by
      rw [hdepth', hdepth, maxDepth]
      decide
    rw [readText_compact (hwf'.2 hwf), if_neg htoo]
    intro hread
    cases hread

/-! ## Writing what was read -/

/-- The members of an object lie less deep than the object. -/
lemma depth_lt_of_fieldsNamed {members : List (String × Json)} {name : String} {v : Json}
    (h : (fieldsNamed members name).getLast? = some v) : v.depth < (Json.obj members).depth := by
  obtain ⟨m, hm, rfl⟩ := List.mem_map.1 (List.mem_of_getLast? h)
  exact Nat.lt_succ_of_le (depthMembers_le_iff.1 le_rfl m (List.mem_of_mem_filter hm))

/-- The contents of an outcome's document lie less deep than the document.

**Proof sketch.** The contents are the values of members of the document. -/
lemma depth_lt_of_members? {doc : Json} {ms : Members} (h : members? doc = some ms) {v : Json}
    (hv : ms.value = some v ∨ ms.error = some v) : v.depth < doc.depth := by
  unfold members? at h
  split at h
  · cases h
    rcases hv with hv | hv <;> cases hv
  · next members =>
    simp only at h
    split at h
    · cases h
      rcases hv with hv | hv <;> exact depth_lt_of_fieldsNamed hv
    · cases h
  · cases h

/-- What an outcome is read from: the flag says which of the two members is present.

**Proof sketch.** By the flag and the two members, as the reading goes. -/
lemma read_eq_ok {doc : Json} {r : Outcome α ε} (h : read value error doc = .ok r) :
    (∃ v a, members? doc = some ⟨some true, some v, none⟩ ∧ value.read v = .ok a ∧ r = .ok a) ∨
      ∃ v e, members? doc = some ⟨some false, none, some v⟩ ∧ error.read v = .ok e ∧
        r = .fail e := by
  unfold read at h
  split at h
  · cases h
  · cases h
  · next v hms =>
    split at h
    · next a ha =>
      cases h
      exact .inl ⟨v, a, hms, ha, rfl⟩
    · cases h
  · cases h
  · next v hms =>
    split at h
    · next e he =>
      cases h
      exact .inr ⟨v, e, hms, he, rfl⟩
    · cases h
  · cases h

/-- **Documents of outcomes are restored if their contents are.**

**Proof sketch.** By `read_eq_ok` the contents were read from a member of the document. They are
restored from a document that is not deeper than that member or than `k`, and the outcome is one
container deeper. -/
theorem restores_codec {k : Nat} {doc : Json}
    (hvalue : ∀ v, members? doc = some ⟨some true, some v, none⟩ → value.Restores k v)
    (herror : ∀ v, members? doc = some ⟨some false, none, some v⟩ → error.Restores k v) :
    (codec value error).Restores (k + 1) doc := by
  intro r hr
  rcases read_eq_ok hr with ⟨v, a, hms, ha, rfl⟩ | ⟨v, e, hms, he, rfl⟩
  · obtain ⟨w, hw, hwf, hread, hdepth⟩ := hvalue v hms a ha
    have hlt := depth_lt_of_members? hms (.inl rfl)
    obtain ⟨hwf', hdepth'⟩ := wrapped_value w
    refine ⟨.obj [("ok", .bool true), ("value", w)], ?_, hwf'.2 hwf, ?_, by omega⟩
    · simp [codec, write, hw, Except.map]
    · simp only [codec, read, members?_value, hread]
  · obtain ⟨w, hw, hwf, hread, hdepth⟩ := herror v hms e he
    have hlt := depth_lt_of_members? hms (.inr rfl)
    obtain ⟨hwf', hdepth'⟩ := wrapped_error w
    refine ⟨.obj [("ok", .bool false), ("error", w)], ?_, hwf'.2 hwf, ?_, by omega⟩
    · simp [codec, write, hw, Except.map]
    · simp only [codec, read, members?_error, hread]

/-- The outcome in a text, if there is one, can be written, and is read back from what is
written. -/
def Reencodes (value : Codec α) (error : Codec ε) (text : List Char) : Prop :=
  ∀ r, readText value error text = .ok r →
    ∃ doc, write value error r = .ok doc ∧ readText value error doc.compact.toList = .ok r

/-- A text is encoded again if its document is restored.

**Proof sketch.** The document of the text is within the depth that can be read, and so is the one
that is written for it. So it is read back. -/
lemma reencodes_of_restores {k : Nat} (hk : k ≤ maxDepth) {text : List Char}
    (h : ∀ doc, readWhole text = some doc → (codec value error).Restores k doc) :
    Reencodes value error text := by
  intro r hr
  unfold readText at hr
  split at hr
  · cases hr
  · next doc hdoc =>
    obtain ⟨w, hw, hwf, hread, hdepth⟩ := h doc hdoc r hr
    have hfits := (fits_of_readWhole hdoc).depth_le
    refine ⟨w, hw, ?_⟩
    rw [readText_compact hwf, if_pos (hdepth.trans (max_le hfits hk))]
    exact hread

/-- The outcome in a text is encoded again if all contents are restored. -/
lemma reencodes_of_contents {k : Nat} (hk : k + 1 ≤ maxDepth) (hvalue : ∀ v, value.Restores k v)
    (herror : ∀ v, error.Restores k v) (text : List Char) : Reencodes value error text :=
  reencodes_of_restores hk fun _ _ => restores_codec (fun v _ => hvalue v) fun v _ => herror v

/-- The empty tag cannot be written. -/
lemma write_emptyRole :
    write Codec.role Codec.text (.ok (.ofText "")) = .error ⟨Text.piecesOf ""⟩ := by
  rfl

/-- **What is read from a text can be written again**, and reads back as the same outcome, for
integers, texts, users, any documents, and outcomes inside of outcomes. For roles this is so exactly
if the text is not one in which null stands for the role.

**Proof sketch.** The codecs of the contents restore every document, apart from null as a role. -/
theorem reencodes_iff (text : List Char) :
    Reencodes Codec.int Codec.text text ∧ Reencodes Codec.text Codec.text text ∧
      Reencodes Codec.user Codec.text text ∧ Reencodes Codec.any Codec.any text ∧
      Reencodes (codec Codec.int Codec.text) Codec.user text ∧
      (Reencodes Codec.role Codec.text text ↔
        ¬∃ doc, readWhole text = some doc ∧
          members? doc = some ⟨some true, some .null, none⟩) := by
  have hnested : ∀ v, (codec Codec.int Codec.text).Restores 1 v := fun v =>
    restores_codec (fun v _ => Codec.restores_int v) fun v _ => Codec.restores_text v
  have htext : ∀ v, Codec.text.Restores 1 v := fun v =>
    Codec.restores_mono (Nat.zero_le 1) (Codec.restores_text v)
  refine ⟨reencodes_of_contents (by decide) Codec.restores_int Codec.restores_text text,
    reencodes_of_contents (by decide) Codec.restores_text Codec.restores_text text,
    reencodes_of_contents (by decide) Codec.restores_user htext text,
    reencodes_of_contents (by decide) Codec.restores_any Codec.restores_any text,
    reencodes_of_contents (by decide) hnested Codec.restores_user text, ?_, ?_⟩
  · rintro h ⟨doc, hdoc, hms⟩
    have hread : readText Codec.role Codec.text text = .ok (.ok (.ofText "")) := by
      simp only [readText, hdoc, read, hms, Codec.role]
    obtain ⟨w, hw, -⟩ := h _ hread
    rw [write_emptyRole] at hw
    cases hw
  · intro h
    refine reencodes_of_restores (k := 1) (by decide) fun doc hdoc =>
      restores_codec (fun v hms => Codec.restores_role ?_) fun v _ => Codec.restores_text v
    rintro rfl
    exact h ⟨doc, hdoc, hms⟩

/-- The text of an outcome in which null stands for the role. -/
def nullRole : List Char := "\x7b\"ok\":true,\"value\":null\x7d".toList

/-- The outcome in which null stands for the role is read, and cannot be written.

**Proof sketch.** The text is read by evaluation. The role that comes of it has the empty tag, which
is not written. -/
theorem nullRole_not_reencoded :
    readText Codec.role Codec.text nullRole = .ok (.ok (.ofText "")) ∧
      write Codec.role Codec.text (.ok (.ofText "")) = .error ⟨Text.piecesOf ""⟩ ∧
      ¬Reencodes Codec.role Codec.text nullRole := by
  have htext : nullRole = (Json.obj [("ok", .bool true), ("value", .null)]).compact.toList := by rfl
  have hread : readText Codec.role Codec.text nullRole = .ok (.ok (.ofText "")) := by
    rw [htext, readText_compact ((wrapped_value .null).1.2 trivial), if_pos (by decide)]
    simp only [read, members?_value, Codec.role]
  refine ⟨hread, write_emptyRole, fun h => ?_⟩
  obtain ⟨w, hw, -⟩ := h _ hread
  rw [write_emptyRole] at hw
  cases hw

end Outcome

end SchemaKit
