import Stencil.Disk
import Stencil.Renderer
import Stencil.Request

/-!
# Stencil.Output

From rendered files to files on the disk.

* `verdicts`  — what becomes of each rendered file.
* `collect`   — the files to be written.
* `writeAll`  — the disk after the files are written, one after the other up to the first failure.
-/

namespace Stencil

inductive Verdict where
  | keep
  | repeated
  | existing
deriving DecidableEq, Repr

/-- `seen` holds the paths so far. A repeated path is dropped whether or not the first file of that
path was kept. -/
def verdictsAfter (exist : String → Bool) (overwrite : Bool) (seen : List String) :
    List RenderedFile → List (RenderedFile × Verdict)
  | [] => []
  | file :: rest =>
    let verdict : Verdict :=
      if seen.contains file.path then .repeated
      else if !overwrite && exist file.path then .existing
      else .keep
    (file, verdict) :: verdictsAfter exist overwrite (file.path :: seen) rest

def verdicts (disk : Disk) (root : String) (overwrite : Bool) (files : List RenderedFile) :
    List (RenderedFile × Verdict) :=
  verdictsAfter (fun path => disk.exists? (Path.join root path)) overwrite [] files

def kept (judged : List (RenderedFile × Verdict)) : List OutputFile :=
  judged.filterMap fun (file, verdict) =>
    if verdict = .keep then some ⟨file.path, file.content⟩ else none

def collect (disk : Disk) (root : String) (overwrite : Bool) (files : List RenderedFile) :
    List OutputFile :=
  kept (verdicts disk root overwrite files)

/-- The disk after a file and the directories above it are written. Directories that were made stay
when the file cannot be written. -/
def writeFile (disk : Disk) (path content : String) : Disk × Option DiskFault :=
  match disk.makeDirs (Path.properSteps path).dropLast with
  | (made, some fault) => (made, some fault)
  | (made, none) =>
    match made.write path content.toUTF8 with
    | .error fault => (made, some fault)
    | .ok written => (written, none)

/-- The disk afterwards, the files that were written, named by their whole path, and the failure
that ended it, if any. -/
structure Written where
  disk : Disk
  files : List OutputFile
  fault? : Option DiskFault

def writeAll (disk : Disk) (root : String) : List OutputFile → Written
  | [] => ⟨disk, [], none⟩
  | file :: rest =>
    let path := Path.join root file.name
    match writeFile disk path file.content with
    | (made, some fault) => ⟨made, [], some fault⟩
    | (made, none) =>
      let after := writeAll made root rest
      { after with files := ⟨path, file.content⟩ :: after.files }

end Stencil
