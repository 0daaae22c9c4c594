import SchemaKit.Config.Dotenv
import SchemaKit.Config.Level
import SchemaKit.Disk.Basic
import SchemaKit.Text.Quoted
import SchemaKit.Text.Truth
import SchemaKit.Yaml.Reader
import SchemaKit.Yaml.Table

/-!
# Settings

Settings are resolved in layers, later ones winning: what is built in, a file of settings, and variables.
Variables come from the environment, and from a file of variables if the environment does not set them.

## Main definitions

* `Config` — the settings.
* `Config.Fault` — why settings cannot be used.
* `Config.ofNode?` — the settings of a file over earlier ones.
* `Sources` — where settings come from.
* `Config.resolve` — the settings of all sources.
* `Config.load` — the settings of all sources, if they can be used.
-/

namespace SchemaKit

/-- The settings of the generator. -/
structure Config where
  outDir : String
  logLevel : String
  title : String
  version : String
  lint : Bool
  ignoredRules : List String
  deriving DecidableEq, Repr

namespace Config

/-- What is built in. -/
def standard : Config := ⟨"schemas", "info", "Fixture Schemas", "1.0.0", false, []⟩

/-- No settings at all. -/
def blank : Config := ⟨"", "", "", "", false, []⟩

/-- The variable for the output directory. -/
def outVariable : String := "FIXTUREGEN_OUT"

/-- The variable for the log level. -/
def levelVariable : String := "FIXTUREGEN_LOG_LEVEL"

/-- The variable that asks for lint. -/
def lintVariable : String := "FIXTUREGEN_LINT"

/-- Why settings cannot be used. -/
inductive Fault where
  | unreadable (fault : Disk.Fault)
  | malformed (path : String)
  | badVariables
  | badTruth (text : String)
  | noOutDir
  | badLevel (fault : Level.Fault)
  deriving DecidableEq, Repr

/-- The wording of a fault. The readers' own words about a malformed text are left out. -/
def Fault.message : Fault → String
  | unreadable f => "read config: " ++ f.message
  | malformed path => "parse config " ++ path ++ ": <cause>"
  | badVariables => "load env file: <cause>"
  | badTruth text =>
    lintVariable ++ ": strconv.ParseBool: parsing " ++ Text.quote text ++ ": invalid syntax"
  | noOutDir => "out_dir is required"
  | badLevel f => "log_level: " ++ f.message

/-! ## Checks -/

/-- The log level. -/
def level (c : Config) : Except Fault Level :=
  match Level.parse c.logLevel with
  | .ok l => .ok l
  | .error f => .error (.badLevel f)

/-- Whether settings can be used. -/
def validate (c : Config) : Except Fault Unit :=
  if Text.isAllBlank c.outDir then .error .noOutDir
  else match c.level with
    | .ok _ => .ok ()
    | .error f => .error f

/-! ## Files of settings -/

/-- A setting that is a text. Null leaves it as it is. -/
def textOver? (old : String) (n : Yaml.Node) : Option String :=
  match n.meaning? with
  | none => none
  | some .null => some old
  | some (.value text _) => some text

/-- A setting that is a truth value. -/
def truthOver? (old : Bool) (n : Yaml.Node) : Option Bool :=
  match n.meaning? with
  | none => none
  | some .null => some old
  | some m => m.truth?

/-- The texts of a list. Null items are left out. -/
def texts? : List Yaml.Node → Option (List String)
  | [] => some []
  | n :: rest =>
    match n.meaning? with
    | none => none
    | some .null => texts? rest
    | some (.value text _) => (texts? rest).map (text :: ·)

/-- A setting that is a list of texts. -/
def textsOver? (n : Yaml.Node) : Option (List String) :=
  match n.resolved with
  | .list items => texts? items
  | n => if n.meaning? = some .null then some [] else none

/-- One entry of a file of settings. Names that mean nothing are passed over. -/
def entry? (c : Config) (name : String) (n : Yaml.Node) : Option Config :=
  match name with
  | "out_dir" => (textOver? c.outDir n).map fun v =>
    ⟨v, c.logLevel, c.title, c.version, c.lint, c.ignoredRules⟩
  | "log_level" => (textOver? c.logLevel n).map fun v =>
    ⟨c.outDir, v, c.title, c.version, c.lint, c.ignoredRules⟩
  | "title" => (textOver? c.title n).map fun v =>
    ⟨c.outDir, c.logLevel, v, c.version, c.lint, c.ignoredRules⟩
  | "version" => (textOver? c.version n).map fun v =>
    ⟨c.outDir, c.logLevel, c.title, v, c.lint, c.ignoredRules⟩
  | "lint" => (truthOver? c.lint n).map fun v =>
    ⟨c.outDir, c.logLevel, c.title, c.version, v, c.ignoredRules⟩
  | "ignore_rules" => (textsOver? n).map fun v =>
    ⟨c.outDir, c.logLevel, c.title, c.version, c.lint, v⟩
  | _ => some c

/-- The names that settings have in a file. -/
def settingNames : List String := ["out_dir", "log_level", "title", "version", "lint", "ignore_rules"]

/-- Whether no setting is given twice. -/
def isUnambiguous (members : List (String × Yaml.Node)) : Bool :=
  decide ((members.map (·.1)).filter settingNames.contains).Nodup

/-- The settings of the members of a table over earlier ones, if none is given twice. -/
def ofMembers? (c : Config) (members : List (String × Yaml.Node)) : Option Config :=
  if isUnambiguous members then members.foldlM (fun c (name, v) => c.entry? name v) c else none

/-- The members of a file of settings. The file is a table, or says nothing. -/
def members? (n : Yaml.Node) : Option (List (String × Yaml.Node)) :=
  if n.meaning? = some .null then some [] else n.members?

/-- The settings of a file over earlier ones. -/
def ofNode? (c : Config) (n : Yaml.Node) : Option Config := (members? n).bind c.ofMembers?

/-- The settings of the text of a file over earlier ones. -/
def ofBytes? (c : Config) (bytes : List UInt8) : Option Config :=
  (Yaml.read? bytes).bind c.ofNode?

/-! ## Layers -/

end Config

/-- Where settings come from: a file of settings with its path, a file of variables, and the variables of the
environment. Files that are not asked for are `none`. -/
structure Sources where
  config : Option (String × Except Disk.Fault (List UInt8))
  dotenv : Option (Except Disk.Fault (List UInt8))
  environment : String → Option String

namespace Config

/-- The settings of a file over those that are built in. -/
def fromFile (s : Sources) : Except Fault Config :=
  match s.config with
  | none => .ok standard
  | some (_, .error f) => .error (.unreadable f)
  | some (path, .ok bytes) =>
    match standard.ofBytes? bytes with
    | none => .error (.malformed path)
    | some c => .ok c

/-- The variables of a file. A file that is not there sets none. -/
def fileVariables (s : Sources) : Except Fault Dotenv.Variables :=
  match s.dotenv with
  | none => .ok []
  | some (.error f) => if f.cause = .notFound then .ok [] else .error .badVariables
  | some (.ok bytes) =>
    match Dotenv.read? bytes with
    | none => .error .badVariables
    | some vs => .ok vs

/-- Whether a text can be the value of a variable. -/
def isValue (text : String) : Bool := !text.toList.contains '\x00'

/-- The value of a variable: that of the environment, even an empty one, or else that of the file; empty
if neither sets it. -/
def effective (s : Sources) (vs : Dotenv.Variables) (name : String) : String :=
  match s.environment name with
  | some v => v
  | none => ((Dotenv.lookup? vs name).filter isValue).getD ""

/-- A value that an empty text leaves as it is. -/
def unlessEmpty (old new : String) : String := if new = "" then old else new

/-- The truth value of a variable; an empty text leaves the old one. -/
def truthOver (old : Bool) (text : String) : Except Fault Bool :=
  if text = "" then .ok old
  else match Text.truth? text with
    | some b => .ok b
    | none => .error (.badTruth text)

/-- Settings with variables over them. -/
def withVariables (c : Config) (value : String → String) : Except Fault Config :=
  match truthOver c.lint (value lintVariable) with
  | .error f => .error f
  | .ok lint =>
    .ok ⟨unlessEmpty c.outDir (value outVariable), unlessEmpty c.logLevel (value levelVariable), c.title,
      c.version, lint, c.ignoredRules⟩

/-- The settings of all sources. -/
def resolve (s : Sources) : Except Fault Config := do
  let c ← fromFile s
  let vs ← fileVariables s
  c.withVariables (effective s vs)

/-- The settings of all sources, if they can be used. -/
def load (s : Sources) : Except Fault Config := do
  let c ← resolve s
  c.validate
  return c

end Config

end SchemaKit
