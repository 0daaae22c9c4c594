import Mathlib.Data.List.Nodup
import Mathlib.Logic.Function.Basic
import SchemaKit.Config.Basic
import SchemaKit.Proofs.Results

/-!
# Settings are resolved layer by layer

What a file of settings says is described setting by setting, without an order and without the
settings that it is laid over. Settings are loaded exactly if each of them is what the topmost layer
that speaks about it says: the variables over the file, the file over what is built in.

## Main definitions

* `SchemaKit.Config.Setting` — the settings one by one, with their values.
* `SchemaKit.Config.Given` — what is said about each setting.
* `SchemaKit.Config.FileSays` — what a file of settings says.
* `SchemaKit.Config.InEffect` — what variables are worth: the environment hides the file of
  variables.
* `SchemaKit.Config.Layered` — settings that follow the layers.

## Main results

* `SchemaKit.Config.ofMembers?_eq_some_iff` — members are read exactly if each setting is given at
  most once and fits, and then what they say is laid over the earlier settings.
* `SchemaKit.Config.load_eq_ok_iff_layered` — the settings of all sources.
-/

namespace SchemaKit

namespace Config

/-- The settings one by one. -/
inductive Setting where
  | outDir
  | logLevel
  | title
  | version
  | lint
  | ignoredRules
  deriving DecidableEq

namespace Setting

/-- The values that a setting can have. -/
abbrev Value : Setting → Type
  | outDir | logLevel | title | version => String
  | lint => Bool
  | ignoredRules => List String

/-- The name of a setting in a file. -/
def name : Setting → String
  | outDir => "out_dir"
  | logLevel => "log_level"
  | title => "title"
  | version => "version"
  | lint => "lint"
  | ignoredRules => "ignore_rules"

/-- The text that a node gives: `none` if it is no text, and `some none` if it says nothing. -/
def textOf? (n : Yaml.Node) : Option (Option String) :=
  n.meaning?.map fun
    | .null => none
    | .value text _ => some text

/-- The truth value that a node gives. -/
def truthOf? (n : Yaml.Node) : Option (Option Bool) :=
  n.meaning?.bind fun
    | .null => some none
    | m => m.truth?.map some

/-- What a node gives for a setting: `none` if it does not fit, and `some none` if it says nothing.
A list that is null is a list without items. -/
def read? : (x : Setting) → Yaml.Node → Option (Option x.Value)
  | outDir | logLevel | title | version => textOf?
  | lint => truthOf?
  | ignoredRules => fun n => (textsOver? n).map some

/-- The nodes that the members of a file give for a setting. -/
def nodes (x : Setting) (members : List (String × Yaml.Node)) : List Yaml.Node :=
  members.filterMap fun (key, n) => if key = x.name then some n else none

/-- What the members of a file say about a setting: `none` if they give it twice or it does not
fit. -/
def given? (x : Setting) (members : List (String × Yaml.Node)) : Option (Option x.Value) :=
  match x.nodes members with
  | [] => some none
  | [n] => x.read? n
  | _ :: _ :: _ => none

/-- Different settings have different names, so that an entry of a file speaks about one setting at
most. -/
lemma name_injective : Function.Injective name := by
  intro x y h
  cases x <;> cases y <;> first | rfl | exact absurd h (by decide)

/-- The names of settings are those that a file is searched for. -/
lemma contains_settingNames_iff {key : String} :
    settingNames.contains key = true ↔ ∃ x : Setting, x.name = key := by
  constructor
  · intro h
    simp only [settingNames, List.contains_iff_mem, List.mem_cons, List.not_mem_nil, or_false] at h
    rcases h with rfl | rfl | rfl | rfl | rfl | rfl
    exacts [⟨outDir, rfl⟩, ⟨logLevel, rfl⟩, ⟨title, rfl⟩, ⟨version, rfl⟩, ⟨lint, rfl⟩,
      ⟨ignoredRules, rfl⟩]
  · rintro ⟨x, rfl⟩
    cases x <;> decide

section Members

variable {x : Setting} {key : String} {n : Yaml.Node} {members : List (String × Yaml.Node)}

/-- An entry with the name of a setting adds its node to those of the setting. -/
lemma nodes_cons_self : x.nodes ((x.name, n) :: members) = n :: x.nodes members := by
  simp only [nodes, List.filterMap_cons, if_true]

/-- An entry with another name adds nothing to the nodes of a setting. -/
lemma nodes_cons_of_ne (h : x.name ≠ key) : x.nodes ((key, n) :: members) = x.nodes members := by
  simp only [nodes, List.filterMap_cons, if_neg h.symm]

/-- Two nodes for a setting say nothing that counts. -/
lemma length_nodes_le_of_given? {v : Option x.Value} (h : x.given? members = some v) :
    (x.nodes members).length ≤ 1 := by
  unfold given? at h
  split at h
  next hnodes => simp only [hnodes, List.length_nil, Nat.zero_le]
  next hnodes => simp only [hnodes, List.length_singleton, Nat.le_refl]
  next => cases h

end Members

end Setting

/-! ### Settings by their names -/

/-- The value of a setting. -/
def get (c : Config) : (x : Setting) → x.Value
  | .outDir => c.outDir
  | .logLevel => c.logLevel
  | .title => c.title
  | .version => c.version
  | .lint => c.lint
  | .ignoredRules => c.ignoredRules

/-- Settings with given values. -/
def ofValues (v : (x : Setting) → x.Value) : Config :=
  ⟨v .outDir, v .logLevel, v .title, v .version, v .lint, v .ignoredRules⟩

/-- Settings with given values have these values. -/
@[simp] lemma get_ofValues (v : (x : Setting) → x.Value) (x : Setting) : (ofValues v).get x = v x := by
  cases x <;> rfl

/-- Settings with the same values are the same. -/
lemma ext_get {c d : Config} (h : ∀ x, c.get x = d.get x) : c = d := by
  obtain ⟨o, l, t, v, b, r⟩ := c
  obtain ⟨o', l', t', v', b', r'⟩ := d
  simp only [mk.injEq]
  exact ⟨h .outDir, h .logLevel, h .title, h .version, h .lint, h .ignoredRules⟩

/-- What is said about each setting, `none` where nothing is said. -/
abbrev Given : Type := (x : Setting) → Option x.Value

/-- Settings with what is said over them. -/
def Given.over (g : Given) (c : Config) : Config := ofValues fun x => (g x).getD (c.get x)

/-- Something is said about one setting only. -/
def Given.only (x : Setting) (v : Option x.Value) : Given := Function.update (fun _ => none) x v

/-- What is said about a setting counts, and otherwise what was there before. -/
@[simp] lemma Given.get_over (g : Given) (c : Config) (x : Setting) :
    (g.over c).get x = (g x).getD (c.get x) :=
  get_ofValues _ x

/-- What is said about the one setting. -/
lemma Given.only_self (x : Setting) (v : Option x.Value) : only x v x = v := Function.update_self ..

/-- Nothing is said about the other settings. -/
lemma Given.only_of_ne {x y : Setting} (h : y ≠ x) (v : Option x.Value) : only x v y = none :=
  Function.update_of_ne h ..

/-- Nothing said leaves the settings as they are. -/
lemma Given.over_none (c : Config) : Given.over (fun _ => none) c = c :=
  ext_get fun x => by rw [get_over, Option.getD_none]

/-! ### Entries -/

/-- A node read over a text is what the node says as a text, or the old text where it says nothing. -/
lemma textOver?_eq (old : String) (n : Yaml.Node) :
    textOver? old n = (Setting.textOf? n).map (·.getD old) := by
  unfold textOver? Setting.textOf?
  rcases n.meaning? with _ | _ | ⟨text, truth⟩ <;> rfl

/-- A node read over a truth value is what the node says as one, or the old value where it says nothing. -/
lemma truthOver?_eq (old : Bool) (n : Yaml.Node) :
    truthOver? old n = (Setting.truthOf? n).map (·.getD old) := by
  unfold truthOver? Setting.truthOf?
  rcases n.meaning? with _ | _ | ⟨text, truth⟩
  · rfl
  · rfl
  · simp only [Option.bind_some, Option.map_map]
    cases (Yaml.Meaning.value text truth).truth? <;> rfl

/-- An entry with the name of a setting says something about this setting only.

**Proof sketch.** By cases on the setting. Reading an entry over old settings is reading its node,
and putting what it says over them. -/
lemma entry?_name (c : Config) (x : Setting) (n : Yaml.Node) :
    c.entry? x.name n = (x.read? n).map fun v => (Given.only x v).over c := by
  cases x with
  | lint =>
    show (truthOver? c.lint n).map _ = (Setting.truthOf? n).map _
    rw [truthOver?_eq, Option.map_map]
    rfl
  | ignoredRules =>
    show (textsOver? n).map _ = ((textsOver? n).map some).map _
    rw [Option.map_map]
    rfl
  | outDir | logLevel | title | version =>
    show (textOver? _ n).map _ = (Setting.textOf? n).map _
    rw [textOver?_eq, Option.map_map]
    rfl

/-- An entry with another name says nothing.

**Proof sketch.** The names that mean something are those of the settings, one by one. -/
lemma entry?_of_forall_ne (c : Config) {key : String} (h : ∀ x : Setting, x.name ≠ key)
    (n : Yaml.Node) :
    c.entry? key n = some c := by
  unfold entry?
  split
  · exact absurd rfl (h .outDir)
  · exact absurd rfl (h .logLevel)
  · exact absurd rfl (h .title)
  · exact absurd rfl (h .version)
  · exact absurd rfl (h .lint)
  · exact absurd rfl (h .ignoredRules)
  · rfl

/-! ### Members -/

section Members

variable {members : List (String × Yaml.Node)}

/-- Members give what is said about each setting. -/
def Gives (members : List (String × Yaml.Node)) (g : Given) : Prop :=
  ∀ x, x.given? members = some (g x)

/-- No setting is given twice.

**Proof sketch.** The number of nodes of a setting is the number of members with its name. No name
of a setting is there twice iff each of them is counted at most once. -/
lemma isUnambiguous_iff :
    isUnambiguous members = true ↔ ∀ x : Setting, (x.nodes members).length ≤ 1 := by
  have hlength (x : Setting) : (x.nodes members).length = (members.map (·.1)).count x.name := by
    induction members with
    | nil => rfl
    | cons e rest ih =>
      obtain ⟨key, n⟩ := e
      by_cases h : x.name = key
      · subst h
        rw [Setting.nodes_cons_self, List.length_cons, ih, List.map_cons, List.count_cons_self]
      · rw [Setting.nodes_cons_of_ne h, ih, List.map_cons, List.count_cons_of_ne (Ne.symm h)]
  simp only [isUnambiguous, decide_eq_true_eq, List.nodup_iff_count_le_one, hlength]
  constructor
  · intro h x
    have hx := h x.name
    rwa [List.count_filter (Setting.contains_settingNames_iff.2 ⟨x, rfl⟩)] at hx
  · intro h key
    by_cases hkey : settingNames.contains key = true
    · obtain ⟨x, rfl⟩ := Setting.contains_settingNames_iff.1 hkey
      rw [List.count_filter hkey]
      exact h x
    · have hnot : key ∉ (members.map (·.1)).filter settingNames.contains :=
        fun hmem => hkey (List.mem_filter.1 hmem).2
      rw [List.count_eq_zero_of_not_mem hnot]
      exact Nat.zero_le 1

/-- Members that give something clear to every setting give each of them at most one node, and so they
are read at all. -/
lemma isUnambiguous_of_gives {g : Given} (h : Gives members g) : isUnambiguous members = true :=
  isUnambiguous_iff.2 fun x => Setting.length_nodes_le_of_given? (h x)

/-- An entry that gives a setting, in front of members that do not.

**Proof sketch.** The first entry is the only node of the setting, and for other settings it does
not count. So what is given for the setting is what its node says, and the rest gives nothing for
it. -/
lemma gives_cons_name_iff {x : Setting} {n : Yaml.Node} (hx : x.nodes members = []) {g : Given} :
    Gives ((x.name, n) :: members) g ↔ x.read? n = some (g x) ∧
      Gives members (Function.update g x none) := by
  have hself : x.given? ((x.name, n) :: members) = x.read? n := by
    simp only [Setting.given?, Setting.nodes_cons_self, hx]
  have hother {y : Setting} (hy : y ≠ x) : y.given? ((x.name, n) :: members) = y.given? members := by
    have hne : y.name ≠ x.name := fun heq => hy (Setting.name_injective heq)
    simp only [Setting.given?, Setting.nodes_cons_of_ne hne]
  constructor
  · intro h
    refine ⟨by rw [← h x, hself], fun y => ?_⟩
    by_cases hy : y = x
    · subst hy
      simp only [Setting.given?, hx, Function.update_self]
    · rw [Function.update_of_ne hy, ← hother hy, h y]
  · rintro ⟨hread, hrest⟩ y
    by_cases hy : y = x
    · subst hy
      rw [hself, hread]
    · rw [hother hy, hrest y, Function.update_of_ne hy]

/-- An entry that gives no setting adds nothing. -/
lemma gives_cons_iff_of_forall_ne {key : String} {n : Yaml.Node} (h : ∀ x : Setting, x.name ≠ key)
    {g : Given} : Gives ((key, n) :: members) g ↔ Gives members g :=
  forall_congr' fun x => by simp only [Setting.given?, Setting.nodes_cons_of_ne (h x)]

/-- What an entry says, and then what later entries say about other settings. -/
lemma Given.over_only_over {g : Given} {x : Setting} (c : Config) :
    Given.over (Function.update g x none) ((only x (g x)).over c) = g.over c := by
  apply ext_get
  intro y
  by_cases hy : y = x
  · subst hy
    simp only [get_over, Function.update_self, only_self, Option.getD_none]
  · simp only [get_over, Function.update_of_ne hy, only_of_ne hy, Option.getD_none]

/-- Entries one after the other give the settings of all of them over the earlier ones.

**Proof sketch.** By induction on the members. An entry with the name of a setting is the only one
for it, so what it says is not said again later and lies over the earlier settings. An entry with
another name says nothing. -/
lemma foldlM_entry?_eq_some_iff (hu : isUnambiguous members = true) (c d : Config) :
    members.foldlM (fun c e => c.entry? e.1 e.2) c = some d ↔
      ∃ g, Gives members g ∧ d = g.over c := by
  induction members generalizing c with
  | nil =>
    have hgives : ∀ g, Gives [] g ↔ g = fun _ => none := by
      intro g
      constructor
      · intro h
        funext x
        exact (Option.some.inj (h x)).symm
      · rintro rfl x
        rfl
    simp only [List.foldlM_nil, hgives, exists_eq_left, Given.over_none]
    exact ⟨fun h => (Option.some.inj h).symm, fun h => congrArg some h.symm⟩
  | cons e rest ih =>
    obtain ⟨key, n⟩ := e
    have hlength := isUnambiguous_iff.1 hu
    rw [List.foldlM_cons]
    by_cases hkey : ∃ x : Setting, x.name = key
    · obtain ⟨x, rfl⟩ := hkey
      have hx : x.nodes rest = [] := by
        have hone := hlength x
        rw [Setting.nodes_cons_self, List.length_cons] at hone
        exact List.length_eq_zero_iff.1 (by omega)
      have hrest : isUnambiguous rest = true := by
        refine isUnambiguous_iff.2 fun y => ?_
        by_cases hy : y = x
        · rw [hy, hx]
          exact Nat.zero_le 1
        · have hne : y.name ≠ x.name := fun heq => hy (Setting.name_injective heq)
          exact Setting.nodes_cons_of_ne hne ▸ hlength y
      rw [entry?_name, Option.bind_eq_bind, Option.bind_eq_some_iff]
      constructor
      · rintro ⟨d', hd', hfold⟩
        obtain ⟨v, hv, rfl⟩ := Option.map_eq_some_iff.1 hd'
        obtain ⟨g, hg, rfl⟩ := (ih hrest _).1 hfold
        have hgx : g x = none := by
          have hnone := hg x
          simp only [Setting.given?, hx, Option.some.injEq] at hnone
          exact hnone.symm
        have hback : Function.update (Function.update g x v) x none = g := by
          rw [Function.update_idem, ← hgx, Function.update_eq_self]
        refine ⟨Function.update g x v, (gives_cons_name_iff hx).2 ⟨?_, ?_⟩, ?_⟩
        · rw [Function.update_self, hv]
        · rwa [hback]
        · rw [← Given.over_only_over c (g := Function.update g x v) (x := x), hback,
            Function.update_self]
      · rintro ⟨g, hg, rfl⟩
        obtain ⟨hread, hgrest⟩ := (gives_cons_name_iff hx).1 hg
        refine ⟨(Given.only x (g x)).over c, by rw [hread, Option.map_some], ?_⟩
        exact (ih hrest _).2 ⟨_, hgrest, (Given.over_only_over c).symm⟩
    · have hno : ∀ x : Setting, x.name ≠ key := fun x hx => hkey ⟨x, hx⟩
      have hrest : isUnambiguous rest = true :=
        isUnambiguous_iff.2 fun x => Setting.nodes_cons_of_ne (hno x) ▸ hlength x
      rw [entry?_of_forall_ne c hno, Option.bind_eq_bind, Option.bind_some, ih hrest]
      exact exists_congr fun g => by rw [gives_cons_iff_of_forall_ne hno]

/-- Members are read exactly if no setting is given twice and all that is given fits.

**Proof sketch.** If no setting is given twice, it is `foldlM_entry?_eq_some_iff`. If one is given
twice, nothing is read, and the members give nothing by `isUnambiguous_of_gives`. -/
theorem ofMembers?_eq_some_iff (c d : Config) :
    c.ofMembers? members = some d ↔ ∃ g, Gives members g ∧ d = g.over c := by
  unfold ofMembers?
  by_cases hu : isUnambiguous members = true
  · rw [if_pos hu, foldlM_entry?_eq_some_iff hu]
  · rw [if_neg hu]
    constructor
    · rintro ⟨⟩
    · rintro ⟨g, hg, -⟩
      exact absurd (isUnambiguous_of_gives hg) hu

end Members

/-! ### Files and variables -/

/-- What a file of settings says. Without a file nothing is said; a file that cannot be read says
nothing that counts. -/
def FileSays (s : Sources) (g : Given) : Prop :=
  match s.config with
  | none => g = fun _ => none
  | some (_, .error _) => False
  | some (_, .ok bytes) => ∃ n members, Yaml.read? bytes = some n ∧ members? n = some members ∧
      Gives members g

/-- The settings of a file are what it says over what is built in.

**Proof sketch.** By cases on whether there is a file and whether it can be read. The text of a file
is read in three steps, to a node, to members, and to settings, and the last one is
`ofMembers?_eq_some_iff`. -/
theorem fromFile_eq_ok_iff (s : Sources) (c : Config) :
    fromFile s = .ok c ↔ ∃ g, FileSays s g ∧ c = g.over standard := by
  unfold fromFile FileSays
  rcases s.config with _ | ⟨path, f | bytes⟩
  · simp only [Except.ok.injEq, exists_eq_left, Given.over_none]
    exact eq_comm
  · simp only [reduceCtorEq, false_and, exists_false]
  · have hread : standard.ofBytes? bytes = some c ↔ ∃ g, (∃ n members, Yaml.read? bytes = some n ∧
        members? n = some members ∧ Gives members g) ∧ c = g.over standard := by
      simp only [ofBytes?, ofNode?, Option.bind_eq_some_iff, ofMembers?_eq_some_iff]
      constructor
      · rintro ⟨n, hn, members, hmembers, g, hg, rfl⟩
        exact ⟨g, ⟨n, members, hn, hmembers, hg⟩, rfl⟩
      · rintro ⟨g, ⟨n, members, hn, hmembers, hg⟩, rfl⟩
        exact ⟨n, hn, members, hmembers, g, hg, rfl⟩
    dsimp only
    rw [← hread]
    cases standard.ofBytes? bytes with
    | none => simp only [reduceCtorEq]
    | some d => simp only [Except.ok.injEq, Option.some.injEq]

/-- What variables are worth. The environment counts even where it sets a variable to the empty
text; a value with a null character in the file of variables cannot be set. -/
structure InEffect (s : Sources) (vs : Dotenv.Variables) (value : String → String) : Prop where
  set : ∀ name v, s.environment name = some v → value name = v
  filed : ∀ name v, s.environment name = none → Dotenv.lookup? vs name = some v → '\x00' ∉ v.toList →
    value name = v
  refused : ∀ name v, s.environment name = none → Dotenv.lookup? vs name = some v →
    '\x00' ∈ v.toList → value name = ""
  unset : ∀ name, s.environment name = none → Dotenv.lookup? vs name = none → value name = ""

/-- **The values in effect are determined by the sources**: the conditions on them leave exactly one
value for each variable, the one that `effective` finds.

**Proof sketch.** A variable is set in the environment, or given by a file with or without a null
character, or not given at all; each case is one of the conditions. -/
lemma inEffect_iff {s : Sources} {vs : Dotenv.Variables} {value : String → String} :
    InEffect s vs value ↔ value = effective s vs := by
  constructor
  · intro h
    funext name
    unfold effective
    rcases henv : s.environment name with _ | v
    · rcases hfile : Dotenv.lookup? vs name with _ | v
      · exact h.unset name henv hfile
      · by_cases hnul : '\x00' ∈ v.toList
        · rw [h.refused name v henv hfile hnul]
          simp [Option.filter, isValue, hnul]
        · rw [h.filed name v henv hfile hnul]
          simp [Option.filter, isValue, hnul]
    · exact h.set name v henv
  · rintro rfl
    constructor
    · intro name v henv
      simp only [effective, henv]
    · intro name v henv hfile hnul
      simp [effective, henv, hfile, Option.filter, isValue, hnul]
    · intro name v henv hfile hnul
      simp [effective, henv, hfile, Option.filter, isValue, hnul]
    · intro name henv hfile
      simp [effective, henv, hfile]

/-- Settings follow the layers: a variable that is not empty, or else what the file says, or else
what is built in. There are variables for three settings only. -/
structure Layered (g : Given) (value : String → String) (c : Config) : Prop where
  outDir : c.outDir =
    if value outVariable ≠ "" then value outVariable else (g .outDir).getD "schemas"
  logLevel : c.logLevel =
    if value levelVariable ≠ "" then value levelVariable else (g .logLevel).getD "info"
  lint : if value lintVariable ≠ "" then Text.truth? (value lintVariable) = some c.lint
    else c.lint = (g .lint).getD false
  title : c.title = (g .title).getD "Fixture Schemas"
  version : c.version = (g .version).getD "1.0.0"
  ignoredRules : c.ignoredRules = (g .ignoredRules).getD []

/-- When a variable gives a truth value: its text must mean one, but an empty text leaves the old value.

**Proof sketch.** By whether the text is empty and, if it is not, by what it means. -/
lemma truthOver_eq_ok_iff {old b : Bool} {text : String} :
    truthOver old text = .ok b ↔ if text ≠ "" then Text.truth? text = some b else b = old := by
  unfold truthOver
  by_cases htext : text = ""
  · rw [if_pos htext, if_neg (not_not.2 htext), Except.ok.injEq]
    exact eq_comm
  · rw [if_neg htext, if_pos htext]
    cases Text.truth? text with
    | none => simp only [reduceCtorEq]
    | some b' => simp only [Except.ok.injEq, Option.some.injEq]

/-- Variables over what a file says.

**Proof sketch.** The variable for the lint setting decides whether there is a failure. Otherwise
the settings are determined one by one, and a variable that is not empty lies over what the file
says. -/
lemma withVariables_over_eq_ok_iff {g : Given} {value : String → String} {c : Config} :
    (g.over standard).withVariables value = .ok c ↔ Layered g value c := by
  have hunless (old new : String) : unlessEmpty old new = if new ≠ "" then new else old := by
    unfold unlessEmpty
    by_cases h : new = "" <;> simp [h]
  unfold withVariables
  rcases hlint : truthOver (g.over standard).lint (value lintVariable) with f | b
  · simp only [reduceCtorEq, false_iff]
    intro h
    have := truthOver_eq_ok_iff.2 h.lint
    rw [show (g .lint).getD false = (g.over standard).lint from rfl, hlint] at this
    cases this
  · simp only [Except.ok.injEq, hunless]
    have hb := truthOver_eq_ok_iff.1 hlint
    constructor
    · rintro rfl
      exact ⟨rfl, rfl, hb, rfl, rfl, rfl⟩
    · intro h
      have hsame : c.lint = b := by
        have := truthOver_eq_ok_iff.2 h.lint
        rw [show (g .lint).getD false = (g.over standard).lint from rfl, hlint] at this
        exact (Except.ok.inj this).symm
      obtain ⟨o, l, t, v, b', r⟩ := c
      obtain ⟨rfl, rfl, -, rfl, rfl, rfl⟩ := h
      subst hsame
      rfl

/-- The settings of all sources, checked or not.

**Proof sketch.** The four steps of the resolution succeed one after the other, and each of them is
known by its own equivalence. -/
theorem resolve_eq_ok_iff (s : Sources) (c : Config) :
    resolve s = .ok c ↔ ∃ (g : Given) (vs : Dotenv.Variables) (value : String → String),
      FileSays s g ∧ fileVariables s = .ok vs ∧ InEffect s vs value ∧ Layered g value c := by
  simp only [resolve, bind_eq_ok_iff, fromFile_eq_ok_iff, inEffect_iff,
    ← withVariables_over_eq_ok_iff]
  constructor
  · rintro ⟨d, ⟨g, hg, rfl⟩, vs, hvs, hc⟩
    exact ⟨g, vs, _, hg, hvs, rfl, hc⟩
  · rintro ⟨g, vs, value, hg, hvs, rfl, hc⟩
    exact ⟨_, ⟨g, hg, rfl⟩, vs, hvs, hc⟩

/-- Settings of all sources are loaded exactly if they follow the layers and can be used.

**Proof sketch.** `resolve` lays the file over what is built in (`fromFile_eq_ok_iff`) and the
variables over that (`withVariables_over_eq_ok_iff`), with the values that `effective` gives them
(`inEffect_iff`); `load` then keeps what passes the check. -/
theorem load_eq_ok_iff_layered (s : Sources) (c : Config) :
    load s = .ok c ↔ ∃ (g : Given) (vs : Dotenv.Variables) (value : String → String),
      FileSays s g ∧ fileVariables s = .ok vs ∧ InEffect s vs value ∧ Layered g value c ∧
        c.validate = .ok () := by
  rw [load, bind_eq_ok_iff]
  constructor
  · rintro ⟨d, hd, hload⟩
    obtain ⟨⟨⟩, hvalid, hsame⟩ := bind_eq_ok_iff.1 hload
    obtain rfl : d = c := Except.ok.inj hsame
    obtain ⟨g, vs, value, hg, hvs, hvalue, hlayered⟩ := (resolve_eq_ok_iff s d).1 hd
    exact ⟨g, vs, value, hg, hvs, hvalue, hlayered, hvalid⟩
  · rintro ⟨g, vs, value, hg, hvs, hvalue, hlayered, hvalid⟩
    refine ⟨c, (resolve_eq_ok_iff s c).2 ⟨g, vs, value, hg, hvs, hvalue, hlayered⟩, ?_⟩
    exact bind_eq_ok_iff.2 ⟨(), hvalid, rfl⟩

/-- A variable of a file whose value has a null character is as if it were not set. -/
theorem load_of_null_character :
    let s : Sources := ⟨none, some (.ok "FIXTUREGEN_OUT=a\x00b".toUTF8.toList), fun _ => none⟩
    fileVariables s = .ok [(outVariable, "a\x00b")] ∧
      load s = .ok ⟨"schemas", "info", "Fixture Schemas", "1.0.0", false, []⟩ := by
  decide +kernel

end Config

end SchemaKit
