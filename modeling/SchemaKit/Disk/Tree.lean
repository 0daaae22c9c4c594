import SchemaKit.Disk.Basic

/-!
# A disk in memory

## Main definitions

* `FileTree` — directories and files by their place.
* `FileTree.locate` — where a path leads.
* `FileTree.disk` — the disk that a file tree is.
-/

namespace SchemaKit

/-- A place: the names of the directories that lead to it, and its own. -/
abbrev Place := List String

/-- Directories and files below a working directory. The working directory itself is always there. -/
structure FileTree where
  dirs : List Place
  files : List (Place × List UInt8)

namespace FileTree

/-- The tree without files. -/
def empty : FileTree := ⟨[], []⟩

/-- The content of a file. -/
def file? (t : FileTree) (p : Place) : Option (List UInt8) :=
  (t.files.find? (·.1 = p)).map (·.2)

/-- Whether a directory is there. -/
def isDir (t : FileTree) (p : Place) : Bool := p.isEmpty || t.dirs.contains p

/-- What a path leads to. Where nothing is, the directory above is there. -/
inductive Spot where
  | dir (p : Place)
  | file (p : Place) (content : List UInt8)
  | free (p : Place)

/-- Follows names from a directory. -/
def follow (t : FileTree) : (dir : Place) → List String → Except Disk.Cause Spot
  | dir, [] => .ok (.dir dir)
  | dir, name :: rest =>
    if name = "" || name = "." then follow t dir rest
    else if name = ".." then follow t dir.dropLast rest
    else
      let p := dir ++ [name]
      if t.isDir p then follow t p rest
      else match t.file? p with
        | some content => if rest.isEmpty then .ok (.file p content) else .error .notDirectory
        | none => if rest.all (· = "") then .ok (.free p) else .error .notFound

/-- Where a path leads. -/
def locate (t : FileTree) (path : String) : Except Disk.Cause Spot :=
  if path = "" then .error .notFound else t.follow [] (Path.parts path)

/-- Adds a directory. -/
def addDir (t : FileTree) (p : Place) : FileTree := ⟨t.dirs ++ [p], t.files⟩

/-- Adds a file, or replaces its content. -/
def addFile (t : FileTree) (p : Place) (content : List UInt8) : FileTree :=
  ⟨t.dirs, t.files.filter (·.1 ≠ p) ++ [(p, content)]⟩

/-- Adds a file with the directories above it; a path that ends in a slash is a directory. -/
def place (t : FileTree) (path : String) (content : List UInt8) : FileTree :=
  let isDirectory := path.toList.getLast? = some '/'
  let p := (Path.parts path).filter (· ≠ "")
  let above := (List.range p.length).filterMap fun n => if n = 0 then none else some (p.take n)
  let t := above.foldl (fun t d => if t.isDir d then t else t.addDir d) t
  if isDirectory then (if t.isDir p then t else t.addDir p) else t.addFile p content

/-! ## Operations -/

/-- The content of a file. -/
def read (t : FileTree) (path : String) : Except Disk.Fault (List UInt8) :=
  match t.locate path with
  | .error cause => .error ⟨"open", path, cause⟩
  | .ok (.dir _) => .error ⟨"read", path, .isDirectory⟩
  | .ok (.free _) => .error ⟨"open", path, .notFound⟩
  | .ok (.file _ content) => .ok content

/-- Whether a path leads to a directory, or `none` if it leads nowhere. -/
def look (t : FileTree) (path : String) : Option Bool :=
  match t.locate path with
  | .ok (.dir _) => some true
  | .ok (.file _ _) => some false
  | _ => none

/-- Makes one directory. One that is there is left alone. -/
def makeDir (t : FileTree) (path : String) : FileTree × Except Disk.Fault Unit :=
  match t.locate path with
  | .error cause => (t, .error ⟨"mkdir", path, cause⟩)
  | .ok (.dir _) => (t, .ok ())
  | .ok (.file _ _) => (t, .error ⟨"mkdir", path, .taken⟩)
  | .ok (.free p) => (t.addDir p, .ok ())

/-- Writes a file. -/
def write (t : FileTree) (path content : String) : FileTree × Except Disk.Fault Unit :=
  let bytes := content.toUTF8.toList
  match t.locate path with
  | .error cause => (t, .error ⟨"open", path, cause⟩)
  | .ok (.dir _) => (t, .error ⟨"open", path, .isDirectory⟩)
  | .ok (.file p _) | .ok (.free p) => (t.addFile p bytes, .ok ())

/-- The disk that a file tree is. -/
def disk : Disk (StateM FileTree) where
  read path := return (← get).read path
  makeDirs path := Disk.makeAll (fun p => return (← get).look p) (fun p t => (t.makeDir p).swap) path
  write path content := fun t => (t.write path content).swap

/-- The files of a tree that are not in an earlier one, or not with the same content. -/
def changed (before after : FileTree) : List (String × List UInt8) :=
  (after.files.filter fun (p, content) => before.file? p ≠ some content).map fun (p, content) =>
    (Text.joined "/" p, content)

end FileTree

end SchemaKit
