import Stencil.Command.Arguments
import Stencil.Generation.Events

/-!
# Stencil.Command

The program as a whole: from its words, its input and the disk to what it leaves behind.

* `Shown`    — what is written to the standard output.
* `Report`   — how a failure is told to the user, with its causes.
* `Outcome`  — what a run leaves behind.
* `Invocation.run`, `run` — one run of the program.
-/

namespace Stencil.Command

inductive Shown where
  | nothing
  | text (s : String)
  | response (r : Response)
deriving DecidableEq, Repr

def Shown.bytes (codec : Codec) : Shown → ByteArray
  | nothing => ByteArray.empty
  | text s => s.toUTF8
  | response r => codec.response r

/-- A failure in words, and what it was caused by, the nearest cause first. -/
structure Report where
  message : String
  causes : List String := []
deriving DecidableEq, Repr

namespace Report

/-- Lines after the first are moved in as far as the first. -/
def hanging (first other : String) (s : String) : String :=
  first ++ ("\n" ++ other).intercalate ((Text.splitOn '\n' s.toList).map String.ofList)

/-- Several causes are numbered from 0. -/
def causeLines : List String → List String
  | [] => []
  | [cause] => [hanging "    " "    " cause]
  | causes => causes.mapIdx fun i cause =>
    hanging (String.ofList (List.replicate (5 - (toString i).length) ' ') ++ s!"{i}: ") "       "
      cause

def text (r : Report) : String :=
  let head := "Error: " ++ r.message ++ "\n"
  if r.causes.isEmpty then head
  else head ++ "\nCaused by:\n" ++ "\n".intercalate (causeLines r.causes) ++ "\n"

def ofFailure (e : Failure) : Report :=
  { message := e.message, causes := e.causes }

/-- The failure of a step, in the words of the step. -/
def ofStep (message : String) (e : Failure) : Report :=
  { message, causes := e.message :: e.causes }

def ofFault (message : String) (fault : DiskFault) : Report :=
  { message, causes := [fault.message] }

end Report

/-- `files` are those that were written, and `disk` is the disk with them. -/
structure Outcome where
  status : Nat
  shown : Shown := .nothing
  report? : Option Report := none
  events : List Event := []
  files : List OutputFile := []
  disk : Disk

namespace Outcome

/-- The statuses of the program. -/
def success : Nat := 0
def failure : Nat := 1
def misuse : Nat := 2
def crash : Nat := 101

/-- A run that ends with a report and leaves the disk alone. -/
def reported (disk : Disk) (events : List Event) (report : Report) : Outcome :=
  { status := failure, report? := some report, events, disk }

/-- A crash shows nothing and is not reported. -/
def failed (disk : Disk) (events : List Event) (e : Failure) : Outcome :=
  if e.isCrash then { status := crash, events, disk }
  else reported disk events (Report.ofFailure e)

end Outcome

/-- The request that a source stands for, or the report that it cannot be had. -/
def Source.load (codec : Codec) (disk : Disk) (s : Source) : Except Report Request :=
  match disk.read s.set with
  | .error fault => .error (Report.ofFault s!"Failed to read {Text.quoted s.set}" fault)
  | .ok bytes =>
    match Request.ofDescriptorSet codec bytes s.parameter s.listed with
    | .error e =>
      .error (Report.ofStep s!"Failed to decode descriptor set {Text.quoted s.set}" e)
    | .ok request => .ok request

def versionLine : String := "protoc-gen-template 0.3.0\n"

/-- The models as one list. -/
def modelText (kit : Toolkit) (models : List Model) : String :=
  kit.pretty (.list (models.map Model.data)) ++ "\n"

/-- The models of a request, which need no template. -/
def showModels (kit : Toolkit) (disk : Disk) (r : Request) : Outcome :=
  match Settings.read kit.toml disk r with
  | .error e => .failed disk r.settingEvents e
  | .ok settings =>
    let events := r.settingEvents ++ modelEvents r settings
    match buildModels r settings with
    | .error e => .failed disk events e
    | .ok models =>
      { status := Outcome.success, shown := .text (modelText kit models), events, disk }

/-- Nothing is written before every file is rendered. -/
def writeFiles (kit : Toolkit) (disk : Disk) (r : Request) (out : String) : Outcome :=
  let events := generationEvents kit disk out r
  match generate kit disk out r with
  | .error e => .failed disk events e
  | .ok response =>
    let written := writeAll disk out response.files
    let events := events ++ written.events
    match written.fault? with
    | none =>
      { status := Outcome.success, events, files := written.files, disk := written.disk }
    | some fault =>
      let report := Report.ofFault s!"Failed to write output to {Text.quoted out}" fault
      { Outcome.reported written.disk events report with files := written.files }

/-- A request from the input is answered with a response, also when it fails. -/
def answer (kit : Toolkit) (disk : Disk) (input : ByteArray) : Outcome :=
  let before : List Event :=
    match kit.codec.request input with
    | .error _ => []
    | .ok r => generationEvents kit disk "." r
  match respond kit disk input with
  | .ok response =>
    { status := Outcome.success, shown := .response response, events := before, disk }
  | .error e =>
    if e.isCrash then .failed disk before e
    else { Outcome.failed disk (before ++ [.failed e.message]) e with
      shown := .response e.response }

def Invocation.run (kit : Toolkit) (disk : Disk) (input : ByteArray) : Invocation → Outcome
  | .plugin => answer kit disk input
  | .version => { status := Outcome.success, shown := .text versionLine, disk }
  | .model source =>
    match source.load kit.codec disk with
    | .error report => .reported disk [] report
    | .ok r => showModels kit disk r
  | .render source out =>
    match source.load kit.codec disk with
    | .error report => .reported disk [] report
    | .ok r => writeFiles kit disk r out

/-- Words that are not understood are a misuse of the program. -/
def run (kit : Toolkit) (disk : Disk) (input : ByteArray) (words : List String) : Outcome :=
  match Invocation.ofWords? words with
  | some invocation => invocation.run kit disk input
  | none => { status := Outcome.misuse, disk }

/-- What is shown of the events of a run. -/
def Outcome.lines (o : Outcome) (v : Verbosity) : List String :=
  (o.events.filter v.shows).map Event.line

end Stencil.Command
