import Mathlib
import SchemaKit.CommandLine
import SchemaKit.Disk.Tree
import SchemaKit.Proofs.Config.Layers

/-!
# Flags and what they override

A flag lies over all sources of its setting. Two runs with the same arguments, one flag among them,
whose sources differ only in the setting of this flag come to the same decision if the sources by
themselves give the setting a value that can be used. Settings are checked before the flags are laid
over them, so a value that cannot be used ends the run whatever the flag says.

## Main definitions

* `SchemaKit.Config.AgreeBut` — sources that differ only in one setting.
* `SchemaKit.Config.Setting.Passes` — the check that a value has to pass before flags are laid over
  it.
* `SchemaKit.CommandLine.decision` — what a run is going to do: fail, show help, or generate.
* `SchemaKit.CommandLine.perform` — carries out a decision.

## Main results

* `SchemaKit.CommandLine.run_disk` — a run gathers its sources, decides, and carries out what it has
  decided.
* `SchemaKit.CommandLine.settings_eq_of_agreeBut` — an overridden setting that passes does not
  count.
* `SchemaKit.CommandLine.run_overridden` — the same for runs, and what becomes of a setting that
  does not pass.
-/

namespace SchemaKit

namespace Config

/-! ### Results that agree -/

/-- Two results: the same fault, or values in a relation. -/
inductive Agree {ε α β : Type} (r : α → β → Prop) : Except ε α → Except ε β → Prop
  | error (e : ε) : Agree r (.error e) (.error e)
  | ok {a : α} {b : β} (h : r a b) : Agree r (.ok a) (.ok b)

namespace Agree

variable {ε α β γ δ : Type}

/-- Equal results agree. -/
lemma of_eq {r : α → α → Prop} (hr : ∀ a, r a a) {x y : Except ε α} (h : x = y) : Agree r x y := by
  subst h
  cases x with
  | error e => exact .error e
  | ok a => exact .ok (hr a)

/-- Results of two steps agree if the first steps do, and the second ones after them. -/
lemma bind {r : α → β → Prop} {q : γ → δ → Prop} {x : Except ε α} {y : Except ε β}
    {f : α → Except ε γ} {g : β → Except ε δ} (h : Agree r x y)
    (hfg : ∀ a b, x = .ok a → y = .ok b → r a b → Agree q (f a) (g b)) :
    Agree q (x >>= f) (y >>= g) := by
  cases h with
  | error e => exact .error e
  | ok hab => exact hfg _ _ rfl rfl hab

/-- Results that agree up to equality are equal. -/
lemma eq {x y : Except ε α} (h : Agree (· = ·) x y) : x = y := by
  cases h with
  | error e => rfl
  | ok hab => rw [hab]

end Agree

/-! ### Sources that differ in one setting -/

namespace Setting

/-- The name of the variable of a setting, if there is one. -/
def key? : Setting → Option String
  | outDir => some outVariable
  | logLevel => some levelVariable
  | lint => some lintVariable
  | _ => none

/-- Whether a text can be the value of the variable of a setting. -/
def FitsVariable : Setting → String → Prop
  | lint, text => text = "" ∨ (Text.truth? text).isSome
  | _, _ => True

/-- The variable of a setting has only values that fit. -/
def Typed (x : Setting) (s : Sources) : Prop :=
  ∀ name, x.key? = some name → (∀ v, s.environment name = some v → x.FitsVariable v) ∧
    ∀ vs v, fileVariables s = .ok vs → Dotenv.lookup? vs name = some v → x.FitsVariable v

/-- The variable of a setting has the same values. -/
def Alike (x : Setting) (s t : Sources) : Prop :=
  ∀ name, x.key? = some name → s.environment name = t.environment name ∧
    ∀ vs ws, fileVariables s = .ok vs → fileVariables t = .ok ws →
      Dotenv.lookup? vs name = Dotenv.lookup? ws name

end Setting

/-- Files of settings that differ only in one setting, where both give a value that fits. -/
inductive FilesAgree (x : Setting) : Option (String × Except Disk.Fault (List UInt8)) →
    Option (String × Except Disk.Fault (List UInt8)) → Prop
  | same (file : Option (String × Except Disk.Fault (List UInt8))) : FilesAgree x file file
  | given {path : String} {bytes bytes' : List UInt8} {n n' : Yaml.Node}
      {members members' : List (String × Yaml.Node)}
      (hread : Yaml.read? bytes = some n ∧ members? n = some members)
      (hread' : Yaml.read? bytes' = some n' ∧ members? n' = some members')
      (others : ∀ y, y ≠ x → y.nodes members = y.nodes members')
      (own : x.nodes members = x.nodes members' ∨
        (x.given? members).isSome ∧ (x.given? members').isSome) :
      FilesAgree x (some (path, .ok bytes)) (some (path, .ok bytes'))

/-- Sources that differ only in one setting: in what the file of settings gives for it, and in the
values of its variable. Values that differ fit the setting. -/
structure AgreeBut (x : Setting) (s t : Sources) : Prop where
  file : FilesAgree x s.config t.config
  filed : Agree (fun vs ws => ∀ name, x.key? ≠ some name →
    Dotenv.lookup? vs name = Dotenv.lookup? ws name) (fileVariables s) (fileVariables t)
  environment : ∀ name, x.key? ≠ some name → s.environment name = t.environment name
  own : x.Alike s t ∨ x.Typed s ∧ x.Typed t

/-- Settings that are the same but for one. -/
def SameBut (x : Setting) (c d : Config) : Prop := ∀ y, y ≠ x → c.get y = d.get y

/-! ### Layers of sources that differ in one setting -/

section Layers

variable {x : Setting} {s t : Sources}

/-- Members give something if each setting is given at most once and fits. -/
lemma exists_gives_iff {members : List (String × Yaml.Node)} :
    (∃ g, Gives members g) ↔ ∀ x : Setting, (x.given? members).isSome := by
  constructor
  · rintro ⟨g, hg⟩ x
    rw [hg x, Option.isSome_some]
  · intro h
    exact ⟨fun x => (x.given? members).get (h x), fun x => (Option.some_get (h x)).symm⟩

/-- Members that give all settings alike but `x`, which they give well.

**Proof sketch.** Members are read iff every setting is given well. For all settings but `x` the
nodes are the same, and for `x` they are the same or fit in both tables. So the second table is read
as well, and says the same about the other settings. -/
lemma ofMembers?_agree {members members' : List (String × Yaml.Node)} {c d : Config}
    (others : ∀ y, y ≠ x → y.nodes members = y.nodes members')
    (own : x.nodes members = x.nodes members' ∨
      (x.given? members).isSome ∧ (x.given? members').isSome)
    (h : c.ofMembers? members = some d) : ∃ d', c.ofMembers? members' = some d' ∧ SameBut x d d' := by
  obtain ⟨g, hg, rfl⟩ := (ofMembers?_eq_some_iff c d).1 h
  have hother (y : Setting) (hy : y ≠ x) : y.given? members' = y.given? members := by
    simp only [Setting.given?, others y hy]
  have hgiven : ∃ g', Gives members' g' := by
    refine exists_gives_iff.2 fun y => ?_
    by_cases hy : y = x
    · subst hy
      rcases own with hsame | ⟨-, hfits⟩
      · have : y.given? members' = y.given? members := by simp only [Setting.given?, hsame]
        rw [this, hg y, Option.isSome_some]
      · exact hfits
    · rw [hother y hy, hg y, Option.isSome_some]
  obtain ⟨g', hg'⟩ := hgiven
  refine ⟨g'.over c, (ofMembers?_eq_some_iff c _).2 ⟨g', hg', rfl⟩, fun y hy => ?_⟩
  have hsame : g y = g' y := by
    have := hother y hy
    rw [hg y, hg' y] at this
    exact (Option.some.inj this).symm
  rw [Given.get_over, Given.get_over, hsame]

/-- Files that agree but for a setting give settings that are the same but for it.

**Proof sketch.** The files are the same, or both have a table that agrees but for the setting. By
`ofMembers?_agree`, used in both directions, one table is read iff the other one is. -/
lemma fromFile_agree (h : FilesAgree x s.config t.config) :
    Agree (SameBut x) (fromFile s) (fromFile t) := by
  unfold fromFile
  generalize s.config = file at h ⊢
  generalize t.config = file' at h ⊢
  cases h with
  | same file => exact .of_eq (fun c y _ => rfl) rfl
  | @given path bytes bytes' n n' members members' hread hread' others own =>
    have hbytes : standard.ofBytes? bytes = standard.ofMembers? members := by
      simp only [ofBytes?, ofNode?, hread, Option.bind_some]
    have hbytes' : standard.ofBytes? bytes' = standard.ofMembers? members' := by
      simp only [ofBytes?, ofNode?, hread', Option.bind_some]
    dsimp only
    rw [hbytes, hbytes']
    rcases hc : standard.ofMembers? members with _ | c
    · rcases hd : standard.ofMembers? members' with _ | d
      · exact .error _
      · -- Were the second table read, the first one would be.
        have hback : x.nodes members' = x.nodes members ∨
            (x.given? members').isSome ∧ (x.given? members).isSome :=
          own.imp Eq.symm And.symm
        obtain ⟨c, hc', -⟩ := ofMembers?_agree (fun y hy => (others y hy).symm) hback hd
        rw [hc] at hc'
        cases hc'
    · obtain ⟨d, hd, hsame⟩ := ofMembers?_agree others own hc
      rw [hd]
      exact .ok hsame

/-- What variables are worth in both, but for that of `x`. -/
lemma effective_eq {vs ws : Dotenv.Variables} {name : String}
    (henv : s.environment name = t.environment name)
    (hfile : Dotenv.lookup? vs name = Dotenv.lookup? ws name) :
    effective s vs name = effective t ws name := by
  simp only [effective, henv, hfile]

/-- A variable with values that fit is worth one that fits.

**Proof sketch.** The variable has its value in the environment, or else in the file, or else it is
empty, which fits. In each case the value is one of those that fit by assumption. -/
lemma fitsVariable_effective {vs : Dotenv.Variables} {name : String} (h : x.Typed s)
    (hname : x.key? = some name) (hvs : fileVariables s = .ok vs) :
    x.FitsVariable (effective s vs name) := by
  have hempty : x.FitsVariable "" := by
    cases x <;> first | exact trivial | exact .inl rfl
  obtain ⟨henv, hfile⟩ := h name hname
  unfold effective
  split
  next v hv => exact henv v hv
  next hnone =>
    rcases hv : (Dotenv.lookup? vs name).filter isValue with _ | v
    · exact hempty
    · exact hfile vs v hvs (Option.filter_eq_some_iff.1 hv).1

/-- Truth values that variables leave or replace. They need not be the same where the variable is
that of `x`, but it then has to fit.

**Proof sketch.** If `x` is another setting, both sides are the same. Otherwise both texts fit or
are the same, so that both are refused or neither is, and nothing is asked of the values. -/
lemma truthOver_agree {old old' : Bool} {text text' : String} (hold : x ≠ .lint → old = old')
    (htext : x ≠ .lint → text = text')
    (hown : text = text' ∨ Setting.lint.FitsVariable text ∧ Setting.lint.FitsVariable text') :
    Agree (fun a b => x ≠ .lint → a = b) (truthOver old text) (truthOver old' text') := by
  by_cases hx : x = .lint
  · have hok (old : Bool) (text : String) (h : Setting.lint.FitsVariable text) :
        ∃ b, truthOver old text = .ok b := by
      unfold truthOver
      rcases h with rfl | h
      · exact ⟨old, rfl⟩
      · obtain ⟨b, hb⟩ := Option.isSome_iff_exists.1 h
        split
        · exact ⟨old, rfl⟩
        · exact ⟨b, by rw [hb]⟩
    rcases hown with rfl | ⟨hfits, hfits'⟩
    · unfold truthOver
      split
      · exact .ok fun h => absurd hx h
      · exact .of_eq (fun _ _ => rfl) rfl
    · obtain ⟨b, hb⟩ := hok old text hfits
      obtain ⟨b', hb'⟩ := hok old' text' hfits'
      rw [hb, hb']
      exact .ok fun h => absurd hx h
  · rw [hold hx, htext hx]
    exact .of_eq (fun _ _ => rfl) rfl

/-- Variables that are the same but for that of a setting, put over settings that are the same but for
it, give settings that are the same but for it, as long as both values of its variable fit.

**Proof sketch.** The variable of the lint setting is treated by `truthOver_agree`. Of the settings
other than `x`, those with a variable are put over the same value by the same variable, and those
without one stay as they were. -/
lemma withVariables_agree {c d : Config} {v w : String → String} (hcd : SameBut x c d)
    (hother : ∀ name, x.key? ≠ some name → v name = w name)
    (hown : ∀ name, x.key? = some name →
      v name = w name ∨ x.FitsVariable (v name) ∧ x.FitsVariable (w name)) :
    Agree (SameBut x) (c.withVariables v) (d.withVariables w) := by
  have hlint : Agree (fun a b => x ≠ .lint → a = b) (truthOver c.lint (v lintVariable))
      (truthOver d.lint (w lintVariable)) := by
    have hvariable : x ≠ .lint → x.key? ≠ some lintVariable := by
      cases x <;> decide
    refine truthOver_agree (fun hx => hcd .lint (Ne.symm hx)) (fun hx => hother _ (hvariable hx)) ?_
    by_cases hx : x = .lint
    · subst hx
      exact hown lintVariable rfl
    · exact .inl (hother _ (hvariable hx))
  have hout : x ≠ .outDir → v outVariable = w outVariable := by
    intro hx
    exact hother _ (by cases x <;> first | decide | exact absurd rfl hx)
  have hlevel : x ≠ .logLevel → v levelVariable = w levelVariable := by
    intro hx
    exact hother _ (by cases x <;> first | decide | exact absurd rfl hx)
  unfold withVariables
  generalize truthOver c.lint (v lintVariable) = a at hlint ⊢
  generalize truthOver d.lint (w lintVariable) = b at hlint ⊢
  cases hlint with
  | error e => exact .error e
  | ok hab =>
    refine .ok fun y hy => ?_
    have hsame := hcd y hy
    cases y with
    | outDir => exact congrArg₂ unlessEmpty hsame (hout (Ne.symm hy))
    | logLevel => exact congrArg₂ unlessEmpty hsame (hlevel (Ne.symm hy))
    | lint => exact hab (Ne.symm hy)
    | title | version | ignoredRules => exact hsame

/-- Sources that differ only in `x` resolve to settings that do, or fail alike. -/
theorem resolve_agree (h : AgreeBut x s t) : Agree (SameBut x) (resolve s) (resolve t) := by
  refine (fromFile_agree h.file).bind fun c d _ _ hcd => ?_
  refine h.filed.bind fun vs ws hvs hws hvars => ?_
  refine withVariables_agree hcd (fun name hname => ?_) (fun name hname => ?_)
  · exact effective_eq (h.environment name hname) (hvars name hname)
  · rcases h.own with halike | ⟨htyped, htyped'⟩
    · obtain ⟨henv, hfile⟩ := halike name hname
      exact .inl (effective_eq henv (hfile vs ws hvs hws))
    · exact .inr ⟨fitsVariable_effective htyped hname hvs, fitsVariable_effective htyped' hname hws⟩

end Layers

/-! ### The check of settings -/

/-- Whether a value passes the check of settings. -/
def Setting.Passes : (x : Setting) → x.Value → Prop
  | .outDir, v => Text.isAllBlank v = false
  | .logLevel, v => ∃ l, Level.parse v = .ok l
  | .lint, _ | .title, _ | .version, _ | .ignoredRules, _ => True

/-- The level of settings is what the text of their level means. -/
lemma level_eq_ok_iff {c : Config} {l : Level} :
    c.level = .ok l ↔ Level.parse c.logLevel = .ok l := by
  unfold level
  cases Level.parse c.logLevel with
  | error f => simp only [reduceCtorEq]
  | ok l' => simp only [Except.ok.injEq]

/-- Settings can be used if each of them passes.

**Proof sketch.** By cases on the setting. The check asks that the output directory is not blank and
that the log level is one, and nothing of the others. -/
lemma passes_of_validate {c : Config} (h : c.validate = .ok ()) (x : Setting) :
    x.Passes (c.get x) := by
  unfold validate at h
  by_cases hblank : Text.isAllBlank c.outDir = true
  · rw [if_pos hblank] at h
    cases h
  · rw [if_neg hblank] at h
    cases x with
    | outDir => exact Bool.eq_false_iff.2 hblank
    | logLevel =>
      rcases hlevel : c.level with f | l
      · rw [hlevel] at h
        cases h
      · exact ⟨l, level_eq_ok_iff.1 hlevel⟩
    | lint | title | version | ignoredRules => exact trivial

/-- The check does not tell settings apart that differ in a value that passes.

**Proof sketch.** The check looks at the output directory and at the log level. Where one of them is
`x`, both values pass, and elsewhere they are the same. -/
lemma validate_congr {x : Setting} {c d : Config} (h : SameBut x c d) (hc : x.Passes (c.get x))
    (hd : x.Passes (d.get x)) : c.validate = d.validate := by
  have hblank : Text.isAllBlank c.outDir = Text.isAllBlank d.outDir := by
    by_cases hx : x = .outDir
    · subst hx
      exact Eq.trans hc (Eq.symm hd)
    · exact congrArg Text.isAllBlank (h .outDir (Ne.symm hx))
  have hlevel : (∃ l l', c.level = .ok l ∧ d.level = .ok l') ∨ c.level = d.level := by
    by_cases hx : x = .logLevel
    · subst hx
      obtain ⟨l, hl⟩ := hc
      obtain ⟨l', hl'⟩ := hd
      exact .inl ⟨l, l', level_eq_ok_iff.2 hl, level_eq_ok_iff.2 hl'⟩
    · have hsame : c.logLevel = d.logLevel := h .logLevel (Ne.symm hx)
      exact .inr (by simp only [level, hsame])
  unfold validate
  rw [hblank]
  rcases hlevel with ⟨l, l', hl, hl'⟩ | hsame
  · rw [hl, hl']
  · rw [hsame]

/-- Sources that differ only in `x`, with values that pass, are loaded alike. -/
theorem load_agree {x : Setting} {s t : Sources} (h : AgreeBut x s t)
    (hs : ∀ c, resolve s = .ok c → x.Passes (c.get x))
    (ht : ∀ c, resolve t = .ok c → x.Passes (c.get x)) :
    Agree (SameBut x) (load s) (load t) := by
  refine (resolve_agree h).bind fun c d hc hd hcd => ?_
  rw [validate_congr hcd (hs c hc) (ht d hd)]
  cases d.validate with
  | error e => exact .error e
  | ok => exact .ok hcd

/-- Settings with a value that does not pass are not loaded. -/
lemma exists_load_eq_error {x : Setting} {s : Sources} {c : Config} (hc : resolve s = .ok c)
    (hx : ¬ x.Passes (c.get x)) : ∃ e, load s = .error e := by
  rcases hload : load s with e | d
  · exact ⟨e, rfl⟩
  · obtain ⟨c', hc', hrest⟩ := bind_eq_ok_iff.1 hload
    obtain rfl : c' = c := Except.ok.inj (hc'.symm.trans hc)
    obtain ⟨⟨⟩, hvalid, -⟩ := bind_eq_ok_iff.1 hrest
    exact absurd (passes_of_validate hvalid x) hx

end Config

/-! ### Flags -/

/-- Whether a flag gives a setting. -/
def Flags.Sets (f : Flags) : Config.Setting → Prop
  | .outDir => f.out.isSome
  | .logLevel => f.logLevel.isSome
  | .lint => f.lint.isSome
  | .title | .version | .ignoredRules => False

/-- What a flag gives lies over what the sources give.

**Proof sketch.** Setting by setting: either it is the one that differs, and then a flag gives it,
or it is the same on both sides. Those without a flag are the same. -/
lemma Flags.applyTo_congr {f : Flags} {x : Config.Setting} {c d : Config} (hf : f.Sets x)
    (h : c.SameBut x d) : f.applyTo c = f.applyTo d := by
  have hover {α : Type} (given : Option α) (a b : α) (hab : given.isSome ∨ a = b) :
      given.getD a = given.getD b := by
    rcases hab with hsome | rfl
    · obtain ⟨v, rfl⟩ := Option.isSome_iff_exists.1 hsome
      rfl
    · rfl
  have hsets (y : Config.Setting) : f.Sets y ∨ c.get y = d.get y := by
    by_cases hy : y = x
    · exact .inl (hy ▸ hf)
    · exact .inr (h y hy)
  apply Config.ext_get
  intro y
  have hy := hsets y
  cases y with
  | outDir | logLevel | lint => exact hover _ _ _ hy
  | title | version | ignoredRules => exact hy.resolve_left id

namespace CommandLine

open Config (Setting AgreeBut)

/-- An overridden setting does not count, if the sources give it a value that passes. -/
theorem settings_eq_of_agreeBut {f : Flags} {x : Setting} {s t : Sources} (hf : f.Sets x)
    (h : AgreeBut x s t) (hs : ∀ c, Config.resolve s = .ok c → x.Passes (c.get x))
    (ht : ∀ c, Config.resolve t = .ok c → x.Passes (c.get x)) : settings f s = settings f t := by
  refine ((Config.load_agree h hs ht).bind fun c d _ _ hcd => ?_).eq
  rw [Flags.applyTo_congr hf hcd]
  exact .of_eq (fun _ => rfl) rfl

/-- What a run is going to do. -/
def decision (args : List String) (look : Flags → Sources) : Except Fault (Option (Config × Level)) :=
  match Flags.parse args with
  | .error f => .error (.flags f)
  | .ok none => .ok none
  | .ok (some f) =>
    match settings f (look f) with
    | .error e => .error (.config e)
    | .ok r => .ok (some r)

/-- Carries out a decision: fails without a trace, shows help, or generates. -/
def perform {m : Type → Type} [Monad m] (d : Disk m) :
    Except Fault (Option (Config × Level)) → m Outcome
  | .error f => return .quiet (some f)
  | .ok none => return .quiet none
  | .ok (some (c, log)) => do
    let r ← Generate.run d c
    match r.fault with
    | some f => return ⟨[], log, r.events ++ [failed f], some (.generate f)⟩
    | none => return ⟨r.paths, log, r.events, none⟩

/-- The sources that flags name in a file tree. -/
def sourcesIn (t : FileTree) (environment : String → Option String) (f : Flags) : Sources :=
  ⟨if f.config = "" then none else some (f.config, t.read f.config),
    if f.dotenv = "" then none else some (t.read f.dotenv), environment⟩

/-- On a file tree the sources are read as they are in it, and the tree stays as it is. -/
lemma sources_disk (t : FileTree) (environment : String → Option String) (f : Flags) :
    (sources FileTree.disk environment f).run t = (sourcesIn t environment f, t) := by
  unfold sources sourcesIn
  by_cases hconfig : f.config = "" <;> by_cases hdotenv : f.dotenv = "" <;>
    simp only [hconfig, hdotenv, if_true, if_false] <;> rfl

/-- A run gathers its sources, decides, and carries out what it has decided.

**Proof sketch.** By cases on the flags. Only where they make sense are sources gathered, and the
disk of a tree hands them over as they are. -/
theorem run_disk (t : FileTree) (environment : String → Option String) (args : List String) :
    (run FileTree.disk environment args).run t =
      (perform FileTree.disk (decision args (sourcesIn t environment))).run t := by
  unfold run decision
  rcases Flags.parse args with e | _ | f
  · rfl
  · rfl
  · dsimp only
    rw [StateT.run_bind, sources_disk]
    dsimp only [Id.run, pure, bind]
    rcases settings f (sourcesIn t environment f) with e | ⟨c, log⟩
    · rfl
    · rfl

/-- Settings that are not loaded end a run, whatever the flags say.

**Proof sketch.** Without settings there is nothing to decide, and the run ends with the fault. -/
lemma run_of_load_eq_error {t : FileTree} {environment : String → Option String}
    {args : List String} {f : Flags} {e : Config.Fault} (hf : Flags.parse args = .ok (some f))
    (he : Config.load (sourcesIn t environment f) = .error e) :
    (run FileTree.disk environment args).run t = (.quiet (some (.config e)), t) := by
  have hsettings : settings f (sourcesIn t environment f) = .error e := by
    rw [settings, he]
    rfl
  have hdecision : decision args (sourcesIn t environment) = .error (.config e) := by
    simp only [decision, hf, hsettings]
  rw [run_disk, hdecision]
  rfl

/-- Two runs with the same arguments, a flag for `x` among them, whose sources differ only in `x`,
carry out the same decision if the sources of both give `x` a value that passes. A value that does
not pass ends the run, although the flag would replace it.

**Proof sketch.** A run carries out its decision (`run_disk`), and the decision depends on the
sources by `settings` alone. There the flag replaces the only setting that differs
(`settings_eq_of_agreeBut`), once the check that comes before the flags is passed in both. -/
theorem run_overridden {x : Setting} {args : List String} {t t' : FileTree}
    {environment environment' : String → Option String}
    (h : ∀ f, Flags.parse args = .ok (some f) →
      f.Sets x ∧ AgreeBut x (sourcesIn t environment f) (sourcesIn t' environment' f)) :
    ((∀ f c, Flags.parse args = .ok (some f) → Config.resolve (sourcesIn t environment f) = .ok c ∨
        Config.resolve (sourcesIn t' environment' f) = .ok c → x.Passes (c.get x)) →
      ∃ a, (run FileTree.disk environment args).run t = (perform FileTree.disk a).run t ∧
        (run FileTree.disk environment' args).run t' = (perform FileTree.disk a).run t') ∧
    ∀ f c, Flags.parse args = .ok (some f) → Config.resolve (sourcesIn t environment f) = .ok c →
      ¬ x.Passes (c.get x) → ∃ e, Config.load (sourcesIn t environment f) = .error e ∧
        (run FileTree.disk environment args).run t = (.quiet (some (.config e)), t) := by
  constructor
  · intro hpasses
    have hdecision : decision args (sourcesIn t environment) =
        decision args (sourcesIn t' environment') := by
      unfold decision
      rcases hargs : Flags.parse args with e | _ | f
      · rfl
      · rfl
      · obtain ⟨hf, hagree⟩ := h f hargs
        dsimp only
        rw [settings_eq_of_agreeBut hf hagree (fun c hc => hpasses f c hargs (.inl hc))
          fun c hc => hpasses f c hargs (.inr hc)]
    refine ⟨decision args (sourcesIn t environment), run_disk t environment args, ?_⟩
    rw [run_disk, hdecision]
  · intro f c hf hc hx
    obtain ⟨e, he⟩ := Config.exists_load_eq_error hc hx
    exact ⟨e, he, run_of_load_eq_error hf he⟩

/-- Another output directory in the file of settings and in the environment.

**Proof sketch.** The two files are tables with one entry each, which is that of the output
directory, so they agree but for this setting. All settings that are loaded pass the check, by
evaluation, so that the general statement applies. -/
theorem run_overridden_outDir :
    let args := ["-config", "c", "-env", "", "-out", "o"]
    let t : FileTree := ⟨[], [(["c"], "out_dir: x".toUTF8.toList)]⟩
    let t' : FileTree := ⟨[], [(["c"], "out_dir: y".toUTF8.toList)]⟩
    let environment (name : String) : Option String :=
      if name = Config.outVariable then some "v" else none
    ∃ a, (run FileTree.disk environment args).run t = (perform FileTree.disk a).run t ∧
      (run FileTree.disk (fun _ => none) args).run t' = (perform FileTree.disk a).run t' := by
  intro args t t' environment
  have hparse : Flags.parse args = .ok (some ⟨"c", "", some "o", none, none⟩) := by decide +kernel
  have hread : t.read "c" = .ok "out_dir: x".toUTF8.toList := by decide +kernel
  have hread' : t'.read "c" = .ok "out_dir: y".toUTF8.toList := by decide +kernel
  have hfile : Yaml.read? "out_dir: x".toUTF8.toList =
        some (.table [(.scalar "out_dir" .plain, .scalar "x" .plain)]) ∧
      Config.members? (.table [(.scalar "out_dir" .plain, .scalar "x" .plain)]) =
        some [("out_dir", .scalar "x" .plain)] := ⟨by cbv, by rfl⟩
  have hfile' : Yaml.read? "out_dir: y".toUTF8.toList =
        some (.table [(.scalar "out_dir" .plain, .scalar "y" .plain)]) ∧
      Config.members? (.table [(.scalar "out_dir" .plain, .scalar "y" .plain)]) =
        some [("out_dir", .scalar "y" .plain)] := ⟨by cbv, by rfl⟩
  refine (run_overridden (x := .outDir) fun f hf => ?_).1 fun f c hf hc => ?_
  · obtain rfl : f = _ := Option.some.inj (Except.ok.inj (hf.symm.trans hparse))
    refine ⟨rfl, ?_, .ok fun _ _ => rfl, fun name hname => ?_,
      .inr ⟨fun _ _ => ⟨fun _ _ => trivial, fun _ _ _ _ => trivial⟩,
        fun _ _ => ⟨fun _ _ => trivial, fun _ _ _ _ => trivial⟩⟩⟩
    · show Config.FilesAgree .outDir (some ("c", t.read "c")) (some ("c", t'.read "c"))
      rw [hread, hread']
      refine .given hfile hfile' (fun y hy => ?_) (.inr ⟨by decide +kernel, by decide +kernel⟩)
      cases y <;> first | rfl | exact absurd rfl hy
    · have hne : name ≠ Config.outVariable := fun heq => hname (congrArg some heq.symm)
      exact if_neg hne
  · obtain rfl : f = _ := Option.some.inj (Except.ok.inj (hf.symm.trans hparse))
    have hresolve : Config.resolve (sourcesIn t environment ⟨"c", "", some "o", none, none⟩) =
        .ok ⟨"v", "info", "Fixture Schemas", "1.0.0", false, []⟩ := by
      show Config.resolve ⟨some ("c", t.read "c"), none, environment⟩ = _
      rw [hread, Config.resolve, Config.fromFile]
      dsimp only
      rw [Config.ofBytes?, hfile.1, Option.bind_some, Config.ofNode?, hfile.2]
      decide +kernel
    have hresolve' : Config.resolve (sourcesIn t' (fun _ => none) ⟨"c", "", some "o", none, none⟩) =
        .ok ⟨"y", "info", "Fixture Schemas", "1.0.0", false, []⟩ := by
      show Config.resolve ⟨some ("c", t'.read "c"), none, _⟩ = _
      rw [hread', Config.resolve, Config.fromFile]
      dsimp only
      rw [Config.ofBytes?, hfile'.1, Option.bind_some, Config.ofNode?, hfile'.2]
      decide +kernel
    rcases hc with hc | hc
    · obtain rfl : c = _ := Except.ok.inj (hc.symm.trans hresolve)
      show Text.isAllBlank "v" = false
      decide
    · obtain rfl : c = _ := Except.ok.inj (hc.symm.trans hresolve')
      show Text.isAllBlank "y" = false
      decide

/-- A blank output directory in the environment ends a run although a flag gives another
one, and a different value there does not.

**Proof sketch.** The two environments differ in the variable of the output directory only. What
happens in either of them is seen by evaluation up to the decision. -/
theorem run_of_blank_variable :
    let args := ["-env", "", "-out", "o"]
    let environment (v name : String) : Option String :=
      if name = Config.outVariable then some v else none
    (∀ f, Flags.parse args = .ok (some f) → f.Sets .outDir ∧
      AgreeBut .outDir (sourcesIn .empty (environment " ") f)
        (sourcesIn .empty (environment "a") f)) ∧
    (run FileTree.disk (environment " ") args).run .empty =
      (.quiet (some (.config .noOutDir)), .empty) ∧
    (run FileTree.disk (environment "a") args).run .empty = (perform FileTree.disk
      (.ok (some (⟨"o", "info", "Fixture Schemas", "1.0.0", false, []⟩, .info)))).run .empty := by
  intro args environment
  have hparse : Flags.parse args = .ok (some ⟨"", "", some "o", none, none⟩) := by decide +kernel
  refine ⟨fun f hf => ?_, run_of_load_eq_error hparse (by decide +kernel), ?_⟩
  · obtain rfl : f = _ := Option.some.inj (Except.ok.inj (hf.symm.trans hparse))
    refine ⟨rfl, .same _, .ok fun _ _ => rfl, fun name hname => ?_,
      .inr ⟨fun _ _ => ⟨fun _ _ => trivial, fun _ _ _ _ => trivial⟩,
        fun _ _ => ⟨fun _ _ => trivial, fun _ _ _ _ => trivial⟩⟩⟩
    have hne : name ≠ Config.outVariable := fun heq => hname (congrArg some heq.symm)
    exact (if_neg hne).trans (if_neg hne).symm
  · have hdecision : decision args (sourcesIn .empty (environment "a")) =
        .ok (some (⟨"o", "info", "Fixture Schemas", "1.0.0", false, []⟩, .info)) := by
      decide +kernel
    rw [run_disk, hdecision]

end CommandLine

end SchemaKit
