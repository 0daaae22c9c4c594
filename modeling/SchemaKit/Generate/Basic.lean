import SchemaKit.Catalog.Document
import SchemaKit.Config.Basic
import SchemaKit.Disk.Basic
import SchemaKit.Generate.Log

/-!
# Generation

The schemas of this library are written to a directory: one document with all of them, and one file for each.

## Main definitions

* `Generate.catalog` — the catalog of this library's schemas.
* `Generate.files` — the files to write, with their content.
* `Generate.run` — makes the files and writes them, up to the first that cannot be written.
* `Generate.Report` — what was written.
-/

namespace SchemaKit.Generate

/-- The name of the document. -/
def documentFile : String := "openapi.json"

/-- Why not everything was written. -/
inductive Fault where
  | catalog (cause : Catalog.Refusal)
  | document (cause : Catalog.Obstacle)
  | directory (cause : Disk.Fault)
  | file (path : String) (cause : Disk.Fault)
  deriving DecidableEq, Repr

/-- The wording of a fault. -/
def Fault.message : Fault → String
  | catalog r => "build catalog: " ++ r.message
  | document o => "render document: " ++ o.message
  | directory f => "create output dir: " ++ f.message
  | file path f => "write " ++ path ++ ": " ++ f.message

/-- What the document says about itself. -/
def description : String :=
  "Schemas of the sample user module (retry limit " ++ Decimal.intText maxRetries ++ ", default name " ++
    Text.quote defaultName ++ ")."

/-- How the document is published. -/
def publication (c : Config) : Publication :=
  ⟨c.title, c.version, description, if c.lint then some c.ignoredRules else none⟩

/-- The catalog of some entities, and of users by key. -/
def catalogOf (es : List Entity) : Except Fault Catalog :=
  match Catalog.empty.register es with
  | (_, .error r) => .error (.catalog r)
  | (c, .ok ()) =>
    match c.registerShape "UserMap" .userIndex with
    | (_, .error r) => .error (.catalog r)
    | (c, .ok ()) => .ok c

/-- The catalog of this library's schemas. -/
def catalog : Except Fault Catalog := catalogOf [userEntity, accountEntity, roleEntity]

/-- The files to write, in order, with their content. Each ends with a line end. -/
def files (c : Config) : Except Fault (List (String × String)) := do
  let cat ← catalog
  match cat.publish (publication c) with
  | .error o => .error (.document o)
  | .ok doc =>
    let schemaFile (d : String × Schema) : String × String :=
      (Path.join c.outDir (Catalog.fileName d.1), d.2.json.indented ++ "\n")
    return (Path.join c.outDir documentFile, doc ++ "\n") :: cat.defs.map schemaFile

/-- What was written, and why not everything was. -/
structure Report where
  paths : List String
  events : List Event
  fault : Option Fault

/-- The event of a written file. -/
def wrote (file : String × String) : Event :=
  ⟨.debug, [("path", .text file.1), ("bytes", .number file.2.utf8ByteSize)], "wrote file"⟩

/-- The event of a finished run. -/
def finished (c : Config) (count : Nat) : Event :=
  ⟨.info, [("dir", .text c.outDir), ("files", .number count)], "schemas generated"⟩

variable {m : Type → Type} [Monad m]

/-- Writes files up to the first that cannot be written; gives those that were. -/
def writeAll (d : Disk m) : List (String × String) → m (List (String × String) × Option Fault)
  | [] => return ([], none)
  | (path, content) :: rest => do
    match ← d.write path content with
    | .error f => return ([], some (.file path f))
    | .ok () =>
      let (written, fault) ← writeAll d rest
      return ((path, content) :: written, fault)

/-- Writes all files, if they could be made. -/
def writeOut (d : Disk m) (c : Config) : Except Fault (List (String × String)) → m Report
  | .error f => return ⟨[], [], some f⟩
  | .ok all => do
    match ← d.makeDirs c.outDir with
    | .error f => return ⟨[], [], some (.directory f)⟩
    | .ok () =>
      let (written, fault) ← writeAll d all
      let last := if fault.isNone then [finished c written.length] else []
      return ⟨written.map (·.1), written.map wrote ++ last, fault⟩

/-- Makes and writes all files. Nothing is written unless all of them could be made. -/
def run (d : Disk m) (c : Config) : m Report := writeOut d c (files c)

end SchemaKit.Generate
