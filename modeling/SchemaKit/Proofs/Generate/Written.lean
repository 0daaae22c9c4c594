import SchemaKit.Generate.Basic
import SchemaKit.Proofs.Disk.Paths
import SchemaKit.Proofs.Generate.Names

/-!
# What a generation has written

A disk may fail at any call: when the directory is made, at the document, or at the schema of any name.
Files are written one by one, and the first that cannot be written ends the generation. So what was
written is always the beginning of one list, and the list of reported files tells where it ends. All
files of the catalog have different paths, and therefore none of them is overwritten by another one.

## Main definitions

* `SchemaKit.Disk.Call`, `SchemaKit.Disk.recorded` — calls to a disk, and a disk that keeps a record of
  them.
* `SchemaKit.Generate.Writes` — calls that write files up to the first that cannot be written.
* `SchemaKit.Generate.outputs` — the files of a catalog.
* `SchemaKit.Generate.Accounts` — a report that agrees with the calls.

## Main results

* `SchemaKit.Generate.writes_writeAll` — files are written up to the first that cannot be written.
* `SchemaKit.Generate.run_accounts` — a generation reports exactly what it wrote.

## Design

The calls to a disk are any functions of some state, so nothing is assumed of what was on the disk before
or of when a call fails. What a generation did with the disk is read off the same generation on the same
disk with a record, which ends in the same state and gives the same report.
-/

namespace SchemaKit

/-! ## Recorded calls -/

namespace Disk

/-- A call to a disk, with its outcome. -/
inductive Call where
  | read (path : String) (outcome : Except Fault (List UInt8))
  | makeDirs (path : String) (outcome : Except Fault Unit)
  | write (path content : String) (outcome : Except Fault Unit)

/-- The path that a call tries to write to. -/
def Call.target? : Call → Option String
  | write path _ _ => some path
  | _ => none

/-- The file that a call has written, with its content. -/
def Call.written? : Call → Option (String × String)
  | write path content (.ok ()) => some (path, content)
  | _ => none

variable {σ : Type}

/-- A disk that keeps a record of all calls, the earliest first. -/
def recorded (d : Disk (StateM σ)) : Disk (StateM (σ × List Call)) where
  read path := fun (s, calls) =>
    let (outcome, s) := d.read path s
    (outcome, s, calls ++ [.read path outcome])
  makeDirs path := fun (s, calls) =>
    let (outcome, s) := d.makeDirs path s
    (outcome, s, calls ++ [.makeDirs path outcome])
  write path content := fun (s, calls) =>
    let (outcome, s) := d.write path content s
    (outcome, s, calls ++ [.write path content outcome])

end Disk

namespace Generate

open Disk (Call)

/-! ## Writing files one by one -/

section

variable {files written : List (String × String)} {calls : List Call} {fault : Option Fault}

/-- Files are written up to the first that cannot be written: the calls for that, the files that were
written, and why not all of them were. -/
inductive Writes : List (String × String) → List Call → List (String × String) → Option Fault → Prop
  | done : Writes [] [] [] none
  | stopped {path content : String} {rest : List (String × String)} {cause : Disk.Fault} :
      Writes ((path, content) :: rest) [.write path content (.error cause)] []
        (some (.file path cause))
  | wrote {path content : String} {rest written : List (String × String)} {calls : List Call}
      {fault : Option Fault} (h : Writes rest calls written fault) :
      Writes ((path, content) :: rest) (.write path content (.ok ()) :: calls)
        ((path, content) :: written) fault

/-- Those files were written for which a call succeeded. -/
lemma Writes.filterMap_written? (h : Writes files calls written fault) :
    calls.filterMap Call.written? = written := by
  induction h with
  | done => rfl
  | stopped => rfl
  | wrote _ ih => rw [List.filterMap_cons, Call.written?, ih]

/-- The files that were written are the first ones. -/
lemma Writes.isPrefix (h : Writes files calls written fault) : written <+: files := by
  induction h with
  | done => exact List.prefix_rfl
  | stopped => exact List.nil_prefix
  | wrote _ ih => exact (List.prefix_cons_inj _).2 ih

/-- There is no fault iff all files were written. -/
lemma Writes.fault_eq_none_iff (h : Writes files calls written fault) :
    fault = none ↔ written = files := by
  induction h with
  | done => simp
  | stopped => simp
  | wrote _ ih => simpa using ih

/-- Only the paths of files are written to.

**Proof sketch.** Induction on the writes: each call is about the first file, or about one of those
behind it. -/
lemma Writes.target?_mem (h : Writes files calls written fault) :
    ∀ call ∈ calls, ∃ file ∈ files, call.target? = some file.1 := by
  induction h with
  | done => exact nofun
  | stopped => simp [Call.target?]
  | @wrote path content rest written calls fault _ ih =>
    rw [List.forall_mem_cons]
    refine ⟨⟨_, List.mem_cons_self, rfl⟩, fun call hcall => ?_⟩
    obtain ⟨file, hfile, htarget⟩ := ih call hcall
    exact ⟨file, List.mem_cons_of_mem _ hfile, htarget⟩

/-- **A file that was written holds its content**: if all files have different paths, the one call that
tries to write to the path of the file is the one that has written it.

**Proof sketch.** By induction on the calls. The path of the first file is not that of a later one,
so no later call goes there, and the first call is not one for a later file. -/
lemma Writes.filter_target? (h : Writes files calls written fault)
    (hnodup : (files.map (·.1)).Nodup) :
    ∀ file ∈ written, calls.filter (·.target? = some file.1) = [.write file.1 file.2 (.ok ())] := by
  induction h with
  | done => exact nofun
  | stopped => exact nofun
  | @wrote path content rest written calls fault hrest ih =>
    obtain ⟨hnew, hnodup⟩ := List.nodup_cons.1 hnodup
    rw [List.forall_mem_cons]
    constructor
    · have hnone : calls.filter (·.target? = some path) = [] := by
        refine List.filter_eq_nil_iff.2 fun call hcall htarget => hnew ?_
        obtain ⟨file, hfile, hfiletarget⟩ := hrest.target?_mem call hcall
        have hpath : file.1 = path := by simpa [hfiletarget] using htarget
        exact List.mem_map.2 ⟨file, hfile, hpath⟩
      rw [List.filter_cons_of_pos (by simp [Call.target?]), hnone]
    · intro file hfile
      have hne : path ≠ file.1 := by
        rintro rfl
        exact hnew (List.mem_map.2 ⟨file, hrest.isPrefix.subset hfile, rfl⟩)
      rw [List.filter_cons_of_neg (by simp [Call.target?, hne])]
      exact ih hnodup file hfile

end

section

variable {σ : Type} {d : Disk (StateM σ)} {s s' : σ} {path content : String}
  {rest : List (String × String)}

/-- Writing ends at a file that cannot be written. -/
lemma run_writeAll_of_error {cause : Disk.Fault} (h : d.write path content s = (.error cause, s')) :
    (writeAll d ((path, content) :: rest)).run s = (([], some (.file path cause)), s') := by
  have hrun : (d.write path content).run s = (.error cause, s') := h
  rw [writeAll, StateT.run_bind, hrun]
  rfl

/-- Writing goes on behind a file that was written. -/
lemma run_writeAll_of_ok (h : d.write path content s = (.ok (), s')) :
    (writeAll d ((path, content) :: rest)).run s =
      let last := (writeAll d rest).run s'
      (((path, content) :: last.1.1, last.1.2), last.2) := by
  have hrun : (d.write path content).run s = (.ok (), s') := h
  rw [writeAll, StateT.run_bind, hrun]
  rfl

variable (d)

/-- **Files are written up to the first that cannot be written**, on any disk.

**Proof sketch.** By induction on the files. The recorded disk does what the disk does and keeps the
call. After a failure there is no further call, and otherwise those for the rest follow. -/
lemma writes_writeAll (files : List (String × String)) (s : σ) (calls : List Call) :
    ∃ more, (writeAll d.recorded files).run (s, calls) =
        (((writeAll d files).run s).1, ((writeAll d files).run s).2, calls ++ more) ∧
      Writes files more ((writeAll d files).run s).1.1 ((writeAll d files).run s).1.2 := by
  induction files generalizing s calls with
  | nil => exact ⟨[], by rw [List.append_nil]; rfl, .done⟩
  | cons file rest ih =>
    obtain ⟨path, content⟩ := file
    rcases hwrite : d.write path content s with ⟨cause | _, s'⟩
    · have hrecorded : d.recorded.write path content (s, calls) =
          (.error cause, s', calls ++ [.write path content (.error cause)]) := by
        simp [Disk.recorded, hwrite]
      rw [run_writeAll_of_error hwrite, run_writeAll_of_error hrecorded]
      exact ⟨_, rfl, .stopped⟩
    · have hrecorded : d.recorded.write path content (s, calls) =
          (.ok (), s', calls ++ [.write path content (.ok ())]) := by
        simp [Disk.recorded, hwrite]
      obtain ⟨more, hmore, hwrites⟩ := ih s' (calls ++ [.write path content (.ok ())])
      rw [run_writeAll_of_ok hwrite, run_writeAll_of_ok hrecorded, hmore]
      refine ⟨.write path content (.ok ()) :: more, ?_, hwrites.wrote⟩
      rw [List.append_assoc]
      rfl

end

/-! ## All files -/

/-- The files of a catalog, in order, with their content: the document, and one schema for each name. -/
def outputs (c : Config) (cat : Catalog) (doc : String) : List (String × String) :=
  (Path.join c.outDir documentFile, doc ++ "\n") ::
    cat.defs.map fun e => (Path.join c.outDir (Catalog.fileName e.1), e.2.json.indented ++ "\n")

/-- The files of a catalog lie in the output directory. -/
lemma map_fst_outputs (c : Config) (cat : Catalog) (doc : String) :
    (outputs c cat doc).map (·.1) =
      (documentFile :: cat.names.map Catalog.fileName).map (Path.join c.outDir) := by
  simp [outputs, Catalog.names, Function.comp_def]

/-- The files of this library's catalog have different paths. -/
lemma nodup_outputs (c : Config) {cat : Catalog} (hcat : cat.names = names) (doc : String) :
    ((outputs c cat doc).map (·.1)).Nodup := by
  have hplain : ∀ name ∈ documentFile :: names.map Catalog.fileName, Path.IsPlain name := by
    decide +kernel
  have hnodup : (documentFile :: names.map Catalog.fileName).Nodup := by decide +kernel
  rw [map_fst_outputs, hcat]
  exact hnodup.map_on fun m hm n hn => (Path.join_inj (hplain m hm) (hplain n hn)).1

/-- The files to write are those of the catalog. -/
lemma files_eq (c : Config) {cat : Catalog} (hcat : catalog = .ok cat) :
    files c = match cat.publish (publication c) with
      | .error cause => .error (.document cause)
      | .ok doc => .ok (outputs c cat doc) := by
  rw [files, hcat]
  rfl

/-! ## A whole generation -/

/-- What the calls to a disk and the report of a generation have to do with each other, for the files
that had to be written and those that were. -/
structure Accounts (all written : List (String × String)) (calls : List Call) (r : Report) : Prop where
  /-- The files that were written are the first ones. -/
  isFirst : written <+: all
  /-- They are those that are reported. -/
  paths : r.paths = written.map (·.1)
  /-- They are those for which a call succeeded. -/
  succeeded : calls.filterMap Call.written? = written
  /-- They hold their content: no other call tried to write to the path of such a file. -/
  holds : ∀ file ∈ written, calls.filter (·.target? = some file.1) = [.write file.1 file.2 (.ok ())]
  /-- There is no fault iff all files were written. -/
  complete : r.fault = none ↔ written = all

section

variable {σ : Type} {d : Disk (StateM σ)} {c : Config} {s s' : σ} {all : List (String × String)}

/-- Without a directory nothing is written. -/
lemma run_writeOut_of_error {cause : Disk.Fault} (h : d.makeDirs c.outDir s = (.error cause, s')) :
    (writeOut d c (.ok all)).run s = (⟨[], [], some (.directory cause)⟩, s') := by
  have hrun : (d.makeDirs c.outDir).run s = (.error cause, s') := h
  rw [writeOut, StateT.run_bind, hrun]
  rfl

/-- In the directory the files are written. -/
lemma run_writeOut_of_ok (h : d.makeDirs c.outDir s = (.ok (), s')) :
    (writeOut d c (.ok all)).run s =
      let last := (writeAll d all).run s'
      let events := if last.1.2.isNone then [finished c last.1.1.length] else []
      (⟨last.1.1.map (·.1), last.1.1.map wrote ++ events, last.1.2⟩, last.2) := by
  have hrun : (d.makeDirs c.outDir).run s = (.ok (), s') := h
  rw [writeOut, StateT.run_bind, hrun]
  rfl

variable (d c s)

/-- **A generation accounts for its files**, on any disk: what it reports is what it has written.

**Proof sketch.** By cases on whether the directory can be made. If not, nothing was written and
something should have been. Otherwise the files are written one after the other, and what is to be
said about them is said by `writes_writeAll` and by what follows for such calls. -/
lemma accounts_writeOut (hne : all ≠ []) (hnodup : (all.map (·.1)).Nodup) :
    ∃ calls, (writeOut d.recorded c (.ok all)).run (s, []) =
        (((writeOut d c (.ok all)).run s).1, ((writeOut d c (.ok all)).run s).2, calls) ∧
      ∃ written, Accounts all written calls ((writeOut d c (.ok all)).run s).1 := by
  rcases hdirs : d.makeDirs c.outDir s with ⟨cause | _, s'⟩
  · have hrecorded : d.recorded.makeDirs c.outDir (s, []) =
        (.error cause, s', [.makeDirs c.outDir (.error cause)]) := by
      simp [Disk.recorded, hdirs]
    rw [run_writeOut_of_error hdirs, run_writeOut_of_error hrecorded]
    refine ⟨[.makeDirs c.outDir (.error cause)], rfl, [], ?_⟩
    exact
      { isFirst := List.nil_prefix
        paths := rfl
        succeeded := rfl
        holds := nofun
        complete := iff_of_false nofun (Ne.symm hne) }
  · have hrecorded : d.recorded.makeDirs c.outDir (s, []) =
        (.ok (), s', [.makeDirs c.outDir (.ok ())]) := by
      simp [Disk.recorded, hdirs]
    obtain ⟨more, hmore, hwrites⟩ := writes_writeAll d all s' [.makeDirs c.outDir (.ok ())]
    rw [run_writeOut_of_ok hdirs, run_writeOut_of_ok hrecorded, hmore]
    refine ⟨.makeDirs c.outDir (.ok ()) :: more, rfl, ((writeAll d all).run s').1.1, ?_⟩
    exact
      { isFirst := hwrites.isPrefix
        paths := rfl
        succeeded := hwrites.filterMap_written?
        holds := hwrites.filter_target? hnodup
        complete := hwrites.fault_eq_none_iff }

/-- **A generation reports exactly what it wrote**, on any disk. If the catalog cannot be built, or the
document of the catalog cannot be made, the disk is not asked for anything. Otherwise the files that are
reported are those that were written, each of them holds its content, and they are the first ones of the
document and the schemas in ascending order of their names. There is no fault iff all were written.

**Proof sketch.** The catalog can be built, with known names. Where its document cannot be made, no
call is there; otherwise the files have different paths, because the names are plain and differ, and
`accounts_writeOut` applies. -/
theorem run_accounts :
    ∃ calls, (run d.recorded c).run (s, []) =
        (((run d c).run s).1, ((run d c).run s).2, calls) ∧
      match catalog with
      | .error cause => calls = [] ∧ (run d c).run s = (⟨[], [], some cause⟩, s)
      | .ok cat => cat.names.Pairwise (· < ·) ∧
        match cat.publish (publication c) with
        | .error cause => calls = [] ∧ (run d c).run s = (⟨[], [], some (.document cause)⟩, s)
        | .ok doc => ∃ written, Accounts (outputs c cat doc) written calls ((run d c).run s).1 := by
  obtain ⟨cat, hcat, hnames⟩ := exists_catalog
  rw [hcat]
  have hasc : cat.names.Pairwise (· < ·) := by
    rw [hnames]
    decide +kernel
  simp only [run, files_eq c hcat]
  cases hpublish : cat.publish (publication c) with
  | error cause => exact ⟨[], rfl, hasc, rfl, rfl⟩
  | ok doc =>
    obtain ⟨calls, hcalls, haccounts⟩ := accounts_writeOut d c s (List.cons_ne_nil _ _)
      (nodup_outputs c hnames doc)
    exact ⟨calls, hcalls, hasc, haccounts⟩

end

end Generate

end SchemaKit
