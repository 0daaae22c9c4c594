import SchemaKit.CommandLine

/-!
# The program

The command on the real disk, with the real environment. Everything that it decides is decided in
`SchemaKit.CommandLine`.
-/

namespace SchemaKit.Program

/-- A text with a small first letter. -/
def uncapitalized (s : String) : String :=
  match s.toList with
  | [] => ""
  | c :: rest => String.ofList (c.toLower :: rest)

/-- The cause of an error of the system. -/
def causeOf : IO.Error → Disk.Cause
  | .noFileOrDirectory _ _ _ => .notFound
  | .alreadyExists _ _ _ => .taken
  | .inappropriateType _ code details =>
    if code = 20 then .notDirectory else if code = 21 then .isDirectory else .other (uncapitalized details)
  | .permissionDenied _ _ details => .other (uncapitalized details)
  | .resourceExhausted _ _ details => .other (uncapitalized details)
  | .invalidArgument _ _ details => .other (uncapitalized details)
  | e => .other (toString e)

/-- Runs a step on a path, and tells what did not work. -/
def attempt {α : Type} (action path : String) (step : IO α) : IO (Except Disk.Fault α) := do
  match ← step.toBaseIO with
  | .ok a => return .ok a
  | .error e => return .error ⟨action, path, causeOf e⟩

/-- Whether a path leads to a directory, or `none` if it leads nowhere. -/
def look (path : String) : IO (Option Bool) := do
  match ← (IO.FS.realPath path).toBaseIO with
  | .ok place => return some (← place.isDir)
  | .error _ => return none

/-- Makes one directory. One that is there is left alone. -/
def makeDir (path : String) : IO (Except Disk.Fault Unit) := do
  match ← attempt "mkdir" path (IO.FS.createDir path) with
  | .ok () => return .ok ()
  | .error f => if (← look path) = some true then return .ok () else return .error f

/-- The real disk. -/
def disk : Disk IO where
  read path := do
    match ← attempt "open" path (IO.FS.Handle.mk path .read) with
    | .error f => return .error f
    | .ok handle =>
      return (← attempt "read" path handle.readBinToEnd).map fun bytes => bytes.toList
  makeDirs path := Disk.makeAll look makeDir path
  write path content := do
    match ← attempt "open" path (IO.FS.Handle.mk path .write) with
    | .error f => return .error f
    | .ok handle => attempt "write" path (handle.write content.toUTF8)

end SchemaKit.Program

open SchemaKit in
/-- Runs the command. It ends with 1 if it fails. -/
def main (args : List String) : IO UInt32 := do
  let out ← IO.getEnv Config.outVariable
  let level ← IO.getEnv Config.levelVariable
  let lint ← IO.getEnv Config.lintVariable
  let environment (name : String) : Option String :=
    if name = Config.outVariable then out
    else if name = Config.levelVariable then level
    else if name = Config.lintVariable then lint
    else none
  let o ← CommandLine.run Program.disk environment args
  IO.eprint (Event.lines o.log o.events)
  IO.print o.printed
  match o.complaint with
  | none => return 0
  | some text =>
    IO.eprintln text
    return 1
