import Stencil.Text.Pieces

/-!
# Stencil.Disk

A disk as a value: directories and files below a working directory, without links.

* `Disk.entry?`   — what lies at a place; a place is the list of names that leads to it.
* `Disk.locate`   — the place of a path, through existing directories.
* `Disk.read`, `Disk.readText` — the content of a file.
* `Disk.exists?`  — whether a path leads to anything.
* `Disk.makeDirs` — a directory with all the directories above it.
* `Disk.write`    — a file with new content.

The working directory is the root, so a path leads to the same place with a slash in front of it.
Any name can be given and there is always room: what fails, fails by what is or is not there.
-/

namespace Stencil

/-- Why an operation on the disk fails. -/
inductive DiskFault where
  | notFound
  | alreadyExists
  | notDirectory
  | isDirectory
  | notText
deriving DecidableEq, Repr

def DiskFault.message : DiskFault → String
  | notFound => "No such file or directory (os error 2)"
  | alreadyExists => "File exists (os error 17)"
  | notDirectory => "Not a directory (os error 20)"
  | isDirectory => "Is a directory (os error 21)"
  | notText => "stream did not contain valid UTF-8"

namespace Path

/-- The steps of a path. Repeated slashes count once. -/
def steps (path : String) : List String :=
  ((Text.splitOn '/' path.toList).filter (· != [])).map String.ofList

def isAbsolute (path : String) : Bool :=
  path.toList.head? == some '/'

def endsWithSlash (path : String) : Bool :=
  path.toList.getLast? == some '/'

/-- A path below another one. An absolute path stands on its own, and below the empty path there
is only the path itself. -/
def join (base path : String) : String :=
  if isAbsolute path || base.isEmpty then path
  else if endsWithSlash base then base ++ path
  else base ++ "/" ++ path

/-- The path through the given steps from where another path starts. -/
def withSteps (path : String) (steps : List String) : String :=
  (if isAbsolute path then "/" else "") ++ "/".intercalate steps

/-- The steps without those that stay where they are, apart from one that begins a relative
path. -/
def properSteps (path : String) : List String :=
  match steps path with
  | [] => []
  | first :: rest =>
    let proper := rest.filter (· != ".")
    if first == "." && isAbsolute path then proper else first :: proper

end Path

inductive Entry where
  | file (content : ByteArray)
  | directory

instance : DecidableEq Entry
  | .file a, .file b =>
    match ByteArray.instDecidableEq a b with
    | isTrue h => isTrue (congrArg Entry.file h)
    | isFalse h => isFalse fun e => h (Entry.file.inj e)
  | .file _, .directory => isFalse Entry.noConfusion
  | .directory, .file _ => isFalse Entry.noConfusion
  | .directory, .directory => isTrue rfl

/-- The working directory is the empty place. -/
structure Disk where
  entries : List (List String × Entry) := []

namespace Disk

def entry? (d : Disk) (place : List String) : Option Entry :=
  if place.isEmpty then some .directory else d.entries.lookup place

def put (d : Disk) (place : List String) (e : Entry) : Disk :=
  ⟨(place, e) :: d.entries.filter (·.1 != place)⟩

/-- One step from a directory. There is nothing above the working directory. -/
def move (place : List String) (step : String) : List String :=
  if step = "." then place
  else if step = ".." then place.dropLast
  else place ++ [step]

/-- The place reached from a directory when every step ends in a directory. -/
def enter (d : Disk) (place : List String) : List String → Except DiskFault (List String)
  | [] => .ok place
  | step :: rest =>
    match d.entry? (move place step) with
    | some .directory => d.enter (move place step) rest
    | some (.file _) => .error .notDirectory
    | none => .error .notFound

/-- The place of the last step, whether or not there is anything. -/
def locate (d : Disk) (steps : List String) : Except DiskFault (List String) :=
  match steps.getLast? with
  | none => .ok []
  | some last =>
    match d.enter [] steps.dropLast with
    | .error e => .error e
    | .ok place => .ok (move place last)

/-- What a path leads to. The empty path leads nowhere; a slash at the end asks for a directory. -/
def find (d : Disk) (path : String) : Except DiskFault Entry :=
  if path.isEmpty then .error .notFound
  else
    match d.locate (Path.steps path) with
    | .error e => .error e
    | .ok place =>
      match d.entry? place with
      | none => .error .notFound
      | some .directory => .ok .directory
      | some (.file content) =>
        if Path.endsWithSlash path then .error .notDirectory else .ok (.file content)

def exists? (d : Disk) (path : String) : Bool :=
  (d.find path).isOk

def read (d : Disk) (path : String) : Except DiskFault ByteArray :=
  match d.find path with
  | .error e => .error e
  | .ok .directory => .error .isDirectory
  | .ok (.file content) => .ok content

def readText (d : Disk) (path : String) : Except DiskFault String :=
  match d.read path with
  | .error e => .error e
  | .ok content =>
    match String.fromUTF8? content with
    | some text => .ok text
    | none => .error .notText

def isDirectory (d : Disk) (steps : List String) : Bool :=
  match d.locate steps with
  | .error _ => false
  | .ok place => d.entry? place == some .directory

/-- Names that stay or go up always exist already. -/
def makeDir (d : Disk) (steps : List String) : Except DiskFault Disk :=
  match d.locate steps with
  | .error e => .error e
  | .ok place =>
    match d.entry? place with
    | some _ => .error .alreadyExists
    | none => .ok (d.put place .directory)

/-- One attempt at a directory, where one that is already there will do. -/
def haveDir (d : Disk) (steps : List String) : Disk × Option DiskFault :=
  match d.makeDir steps with
  | .ok made => (made, none)
  | .error e => (d, if d.isDirectory steps then none else some e)

/-- A directory and the missing ones above it, the steps given from the last to the first. What was
made before a failure stays. -/
def makeDirsUp (d : Disk) : List String → Disk × Option DiskFault
  | [] => (d, none)
  | last :: above =>
    match d.makeDir (last :: above).reverse with
    | .error .notFound =>
      match d.makeDirsUp above with
      | (made, some e) => (made, some e)
      | (made, none) => made.haveDir (last :: above).reverse
    | _ => d.haveDir (last :: above).reverse

def makeDirs (d : Disk) (steps : List String) : Disk × Option DiskFault :=
  d.makeDirsUp steps.reverse

/-- A path that ends in a slash, or in a step that stays or goes up, names a directory. -/
def write (d : Disk) (path : String) (content : ByteArray) : Except DiskFault Disk :=
  if path.isEmpty then .error .notFound
  else
    match (Path.steps path).getLast? with
    | none => .error .isDirectory
    | some last =>
      match d.enter [] (Path.steps path).dropLast with
      | .error e => .error e
      | .ok place =>
        if Path.endsWithSlash path || d.entry? (move place last) == some .directory then
          .error .isDirectory
        else .ok (d.put (move place last) (.file content))

end Disk

end Stencil
