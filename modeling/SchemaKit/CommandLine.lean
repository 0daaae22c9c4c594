import SchemaKit.Generate.Basic

/-!
# The command line

## Main definitions

* `Flags` — what the arguments ask for.
* `Flags.parse` — the flags in front of the first argument that is none.
* `CommandLine.run` — the whole command on a disk.
-/

namespace SchemaKit

/-- What the arguments ask for. -/
structure Flags where
  config : String
  dotenv : String
  out : Option String
  logLevel : Option String
  lint : Option Bool
  deriving DecidableEq, Repr

namespace Flags

/-- What is asked for without arguments. -/
def standard : Flags := ⟨"", ".env", none, none, none⟩

/-- Why arguments cannot be used. -/
inductive Fault where
  | malformed (argument : String)
  | unknown (name : String)
  | badTruth (name value : String)
  | noValue (name : String)
  deriving DecidableEq, Repr

/-- The wording of a fault. -/
def Fault.message : Fault → String
  | malformed arg => "bad flag syntax: " ++ arg
  | unknown name => "flag provided but not defined: -" ++ name
  | badTruth name value =>
    "invalid boolean value " ++ Text.quote value ++ " for -" ++ name ++ ": parse error"
  | noValue name => "flag needs an argument: -" ++ name

/-- Sets a flag that takes a text, if there is one with this name. -/
def setText? (f : Flags) (name value : String) : Option Flags :=
  match name with
  | "config" => some ⟨value, f.dotenv, f.out, f.logLevel, f.lint⟩
  | "env" => some ⟨f.config, value, f.out, f.logLevel, f.lint⟩
  | "out" => some ⟨f.config, f.dotenv, some value, f.logLevel, f.lint⟩
  | "log-level" => some ⟨f.config, f.dotenv, f.out, some value, f.lint⟩
  | _ => none

/-- Whether a flag takes a text. -/
def takesText (name : String) : Bool := (standard.setText? name "").isSome

/-- Sets the flag that takes a truth value. -/
def setLint (f : Flags) (value : String) : Except Fault Flags :=
  match Text.truth? value with
  | some b => .ok ⟨f.config, f.dotenv, f.out, f.logLevel, some b⟩
  | none => .error (.badTruth "lint" value)

/-- An argument as the name of a flag, with a value behind an equals sign: none if it is no flag. -/
def split? (arg : String) : Option (Except Fault (String × Option String)) :=
  let named (cs : List Char) : Except Fault (String × Option String) :=
    match cs with
    | [] => .error (.malformed arg)
    | c :: rest =>
      if c = '-' || c = '=' then .error (.malformed arg)
      else match Text.cut '=' rest with
        | some (name, value) => .ok (String.ofList (c :: name), some (String.ofList value))
        | none => .ok (String.ofList (c :: rest), none)
  match arg.toList with
  | '-' :: '-' :: [] => none
  | '-' :: '-' :: name => some (named name)
  | '-' :: c :: rest => some (named (c :: rest))
  | _ => none

/-- What the arguments ask for: help (`none`), or flags. Behind the first argument that is no flag everything
is passed over. -/
def parseFrom (f : Flags) : List String → Except Fault (Option Flags)
  | [] => .ok (some f)
  | arg :: rest =>
    match split? arg with
    | none => .ok (some f)
    | some (.error e) => .error e
    | some (.ok (name, value?)) =>
      if name = "lint" then
        match f.setLint (value?.getD "true") with
        | .error e => .error e
        | .ok f => parseFrom f rest
      else if takesText name then
        match value?, rest with
        | some value, rest => parseFrom ((f.setText? name value).getD f) rest
        | none, value :: rest => parseFrom ((f.setText? name value).getD f) rest
        | none, [] => .error (.noValue name)
      else if name = "help" || name = "h" then .ok none
      else .error (.unknown name)

/-- What the arguments ask for: help (`none`), or flags. -/
def parse (args : List String) : Except Fault (Option Flags) := standard.parseFrom args

/-- Settings with flags over them. -/
def applyTo (f : Flags) (c : Config) : Config :=
  ⟨f.out.getD c.outDir, f.logLevel.getD c.logLevel, c.title, c.version, f.lint.getD c.lint,
    c.ignoredRules⟩

end Flags

namespace CommandLine

/-- Why the command fails. -/
inductive Fault where
  | flags (cause : Flags.Fault)
  | config (cause : Config.Fault)
  | generate (cause : Generate.Fault)
  deriving DecidableEq, Repr

/-- The wording of a fault. -/
def Fault.message : Fault → String
  | flags f => f.message
  | config f => f.message
  | generate f => f.message

/-- What the command leaves behind: the paths that it prints, its log, and why it failed. -/
structure Outcome where
  paths : List String
  log : Level
  events : List Event
  fault : Option Fault

/-- An outcome without effects. -/
def Outcome.quiet (fault : Option Fault) : Outcome := ⟨[], .unset, [], fault⟩

/-- The settings with flags over them, and the log level, if they can be used. Settings have to be usable
also without the flags. -/
def settings (f : Flags) (s : Sources) : Except Config.Fault (Config × Level) := do
  let c := f.applyTo (← Config.load s)
  c.validate
  return (c, ← c.level)

variable {m : Type → Type} [Monad m]

/-- Reads the files that the flags name. -/
def sources (d : Disk m) (environment : String → Option String) (f : Flags) : m Sources := do
  let config ← if f.config = "" then pure none else do
    let content ← d.read f.config
    pure (some (f.config, content))
  let dotenv ← if f.dotenv = "" then pure none else do
    let content ← d.read f.dotenv
    pure (some content)
  return ⟨config, dotenv, environment⟩

/-- The event of a run that failed. -/
def failed (f : Generate.Fault) : Event := ⟨.error, [("error", .text f.message)], "generation failed"⟩

/-- The command. -/
def run (d : Disk m) (environment : String → Option String) (args : List String) : m Outcome := do
  match Flags.parse args with
  | .error f => return .quiet (some (.flags f))
  | .ok none => return .quiet none
  | .ok (some flags) =>
    match settings flags (← sources d environment flags) with
    | .error f => return .quiet (some (.config f))
    | .ok (c, log) =>
      let r ← Generate.run d c
      match r.fault with
      | some f => return ⟨[], log, r.events ++ [failed f], some (.generate f)⟩
      | none => return ⟨r.paths, log, r.events, none⟩

/-- What the command prints. -/
def Outcome.printed (o : Outcome) : String := String.join (o.paths.map (· ++ "\n"))

/-- What the command prints about a fault. -/
def Outcome.complaint (o : Outcome) : Option String :=
  o.fault.map fun f => "fixturegen: " ++ f.message

end CommandLine

end SchemaKit
