import SchemaKit.Text.Split

/-!
# Disks

What a program does with files is written over an interface, so that it can be run on a real disk and
reasoned about on any disk whatever its behaviour.

## Main definitions

* `Disk` — reading, making directories, writing.
* `Disk.Fault` — what did not work.
* `Path.clean`, `Path.join` — the shortest path with the same meaning.
* `Disk.makeAll` — makes a directory and those above it, on any disk that can make one.
-/

namespace SchemaKit

/-- Why something did not work on a disk. -/
inductive Disk.Cause where
  | notFound
  | notDirectory
  | isDirectory
  | taken
  | other (text : String)
  deriving DecidableEq, Repr

/-- The wording of a cause. -/
def Disk.Cause.message : Disk.Cause → String
  | notFound => "no such file or directory"
  | notDirectory => "not a directory"
  | isDirectory => "is a directory"
  | taken => "file exists"
  | other text => text

/-- What did not work, and where. -/
structure Disk.Fault where
  action : String
  path : String
  cause : Disk.Cause
  deriving DecidableEq, Repr

/-- The wording of a fault. -/
def Disk.Fault.message (f : Disk.Fault) : String :=
  f.action ++ " " ++ f.path ++ ": " ++ f.cause.message

/-- A disk: reading a file, making a directory with all directories above it, and writing a file. -/
structure Disk (m : Type → Type) where
  read : String → m (Except Disk.Fault (List UInt8))
  makeDirs : String → m (Except Disk.Fault Unit)
  write : String → String → m (Except Disk.Fault Unit)

namespace Path

/-- The parts of a path between slashes. -/
def parts (path : String) : List String := (Text.splitAll '/' path.toList).map String.ofList

/-- One more part behind parts in reverse order. A step up takes the last part away, or is dropped at the
root. -/
def step (isRooted : Bool) (done : List String) (part : String) : List String :=
  if part = "" || part = "." then done
  else if part = ".." then
    match done with
    | [] => if isRooted then [] else [".."]
    | last :: rest => if last = ".." then ".." :: done else rest
  else part :: done

/-- The shortest path with the same meaning, as far as names tell. -/
def clean (path : String) : String :=
  let isRooted := path.toList.head? = some '/'
  let parts := ((parts path).foldl (step isRooted) []).reverse
  let body := Text.joined "/" parts
  if isRooted then "/" ++ body else if body = "" then "." else body

/-- A name inside a directory. -/
def join (dir name : String) : String := if dir = "" then clean name else clean (dir ++ "/" ++ name)

/-- The path of the directory above, without its last slash, if the path names one. -/
def above? (path : String) : Option String :=
  let cs := (path.toList.reverse.dropWhile (· = '/')).dropWhile (· ≠ '/')
  if cs.length > 1 then some (String.ofList cs.tail.reverse) else none

end Path

namespace Disk

variable {m : Type → Type} [Monad m]

/-- Makes a directory and those above it, at most `fuel` of them. `look` tells whether a path leads to a
directory, or `none` if it leads nowhere. -/
def makeUpTo (look : String → m (Option Bool)) (make : String → m (Except Fault Unit)) :
    (fuel : Nat) → String → m (Except Fault Unit)
  | 0, path => return .error ⟨"mkdir", path, .notFound⟩
  | fuel + 1, path => do
    match ← look path with
    | some true => return .ok ()
    | some false => return .error ⟨"mkdir", path, .notDirectory⟩
    | none =>
      let above ← match Path.above? path with
        | some dir => makeUpTo look make fuel dir
        | none => pure (.ok ())
      match above with
      | .error f => return .error f
      | .ok () => make path

/-- Makes a directory and those above it. Those made before a fault stay. Each step shortens the path, so
its length bounds their number. -/
def makeAll (look : String → m (Option Bool)) (make : String → m (Except Fault Unit)) (path : String) :
    m (Except Fault Unit) :=
  makeUpTo look make (path.length + 1) path

end Disk

end SchemaKit
