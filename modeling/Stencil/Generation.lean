import Stencil.Model.Merge
import Stencil.Output
import Stencil.Settings.File

/-!
# Stencil.Generation

A run from a request to a response.

* `Failure`      — what ends a run.
* `Request.attempts`, `buildModels` — the models of the listed files.
* `generate`     — settings, templates, models, rendered files, response, in this order.
* `respond`      — the same from the bytes of a request.
-/

namespace Stencil

inductive Failure where
  | setting (e : SettingError)
  | build (e : BuildError)
  | decode (text : String)
  | templateFile (path : String) (fault : DiskFault)
  | template (fault : EngineFault)
  | missingFile (name : String)
deriving DecidableEq, Repr

namespace Failure

def message : Failure → String
  | setting e => e.message
  | build e => e.text
  | decode text => "failed to decode request: " ++ text
  | templateFile path fault => s!"cannot read template {path}: {fault.message}"
  | template fault => "template error: " ++ fault.text
  | missingFile name => s!"file `{name}` is listed for generation but not part of the request"

/-- What lies behind a failure and is told apart from it, the nearest cause first. -/
def causes : Failure → List String
  | build e => [e.cause.message]
  | decode text => [text]
  | templateFile _ fault => [fault.message]
  | template fault => fault.chain
  | setting _ | missingFile _ => []

/-- The program is stopped and fails in no other way. -/
def isCrash : Failure → Bool
  | template .panic => true
  | _ => false

end Failure

namespace Request

/-- Of several files with one name the last counts. -/
def file? (r : Request) (name : String) : Option FileDecl :=
  r.files.reverse.find? (·.name == name)

def attempt (r : Request) (b : Builder) (name : String) : Except Failure Model :=
  match r.file? name with
  | none => .error (.missingFile name)
  | some file =>
    match b.model file with
    | .error e => .error (.build e)
    | .ok m => .ok m

/-- The models of the listed files up to the first that is missing or cannot be built. -/
def builtNames (r : Request) (b : Builder) : List String :=
  r.listed.takeWhile fun name => (r.attempt b name).isOk

end Request

def attemptAll (attempt : String → Except Failure Model) :
    List String → Except Failure (List Model)
  | [] => .ok []
  | name :: rest =>
    match attempt name with
    | .error e => .error e
    | .ok m =>
      match attemptAll attempt rest with
      | .error e => .error e
      | .ok ms => .ok (m :: ms)

/-- With `allowMerge` the models become one, unless there is none. -/
def buildModels (r : Request) (s : Settings) : Except Failure (List Model) :=
  match attemptAll (r.attempt s.builder) r.listed with
  | .error e => .error e
  | .ok models => .ok (if s.allowMerge then (Model.mergeAll models).toList else models)

def Settings.read (toml : Toml.Reader) (disk : Disk) (r : Request) : Except Failure Settings :=
  match Settings.ofParameter toml disk r.parameter with
  | .error e => .error (.setting e)
  | .ok s => .ok s

/-- The renderer that settings ask for. -/
def Settings.renderer (kit : Toolkit) (disk : Disk) (s : Settings) :
    Except Failure (Renderer kit.engine) :=
  match disk.readText s.template with
  | .error fault => .error (.templateFile s.template fault)
  | .ok source =>
    match Renderer.compile kit source s.outputPath with
    | .error fault => .error (.template fault)
    | .ok r => .ok r

/-- Everything a run makes before its files are collected. -/
structure Rendering where
  settings : Settings
  models : List Model
  files : List RenderedFile

def Request.rendering (kit : Toolkit) (disk : Disk) (r : Request) : Except Failure Rendering :=
  match Settings.read kit.toml disk r with
  | .error e => .error e
  | .ok settings =>
    match settings.renderer kit disk with
    | .error e => .error e
    | .ok renderer =>
      match buildModels r settings with
      | .error e => .error e
      | .ok models =>
        match renderAll renderer.render models settings.unit with
        | .error fault => .error (.template fault)
        | .ok files => .ok ⟨settings, models, files⟩

/-- Whether files exist already is looked up below `root`. -/
def generate (kit : Toolkit) (disk : Disk) (root : String) (r : Request) :
    Except Failure Response :=
  match r.rendering kit disk with
  | .error e => .error e
  | .ok made => .ok (Response.ofFiles (collect disk root made.settings.overwrite made.files))

def respond (kit : Toolkit) (disk : Disk) (bytes : ByteArray) : Except Failure Response :=
  match kit.codec.request bytes with
  | .error text => .error (.decode text)
  | .ok r => generate kit disk "." r

def Request.ofDescriptorSet (codec : Codec) (bytes : ByteArray) (parameter : String)
    (listed : List String) : Except Failure Request :=
  match codec.descriptorSet bytes with
  | .error text => .error (.decode text)
  | .ok files => .ok (Request.ofSet files parameter listed)

def Failure.response (e : Failure) : Response :=
  Response.ofError e.message

end Stencil
