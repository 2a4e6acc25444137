import Stencil.Context
import Stencil.Naming
import Stencil.Text.Blank

/-!
# Stencil.Renderer

Two templates at work: one for the content of a file and one for its path.

* `Renderer.compile` — both templates in one environment, the content first.
* `Renderer.render`  — one file: its content first, then its path.
* `renderAll`        — the files of all contexts of all models, or the first error.
-/

namespace Stencil

structure RenderedFile where
  path : String
  content : String
deriving DecidableEq, Repr

/-- The names of the templates, by which they can also include each other. -/
def contentTemplate : String := "content"
def pathTemplate : String := "output_path"

/-- What templates find before any is compiled. -/
def Toolkit.environment (kit : Toolkit) : kit.engine.Environment :=
  (Naming.filters kit.wording).foldl (fun env (name, f) => kit.engine.addFilter env name f)
    (kit.engine.keepFinalNewline kit.engine.empty)

structure Renderer (engine : Engine) where
  environment : engine.Environment

namespace Renderer

def compile (kit : Toolkit) (content outputPath : String) :
    Except EngineFault (Renderer kit.engine) :=
  match kit.engine.addTemplate kit.environment contentTemplate content with
  | .error fault => .error fault
  | .ok env =>
    match kit.engine.addTemplate env pathTemplate outputPath with
    | .error fault => .error fault
    | .ok env => .ok ⟨env⟩

variable {engine : Engine}

def content (r : Renderer engine) (c : Context) : Except EngineFault String :=
  engine.render r.environment contentTemplate c.bindings

/-- The path as it is written by its template. -/
def path (r : Renderer engine) (c : Context) : Except EngineFault String :=
  engine.render r.environment pathTemplate c.bindings

/-- Blanks around the path are taken away. -/
def render (r : Renderer engine) (c : Context) : Except EngineFault RenderedFile :=
  match r.content c with
  | .error fault => .error fault
  | .ok content =>
    match r.path c with
    | .error fault => .error fault
    | .ok path => .ok ⟨Text.trim path, content⟩

end Renderer

/-- One file after the other, up to the first error. -/
def renderEach (render : Context → Except EngineFault RenderedFile) :
    List Context → Except EngineFault (List RenderedFile)
  | [] => .ok []
  | c :: rest =>
    match render c with
    | .error e => .error e
    | .ok file =>
      match renderEach render rest with
      | .error e => .error e
      | .ok files => .ok (file :: files)

def renderAll (render : Context → Except EngineFault RenderedFile) (models : List Model)
    (unit : UnitKind) : Except EngineFault (List RenderedFile) :=
  renderEach render (models.flatMap (contexts · unit))

/-- The models whose files were all rendered before the first error. -/
def renderedModels (render : Context → Except EngineFault RenderedFile) (models : List Model)
    (unit : UnitKind) : List Model :=
  models.takeWhile fun m => (renderEach render (contexts m unit)).isOk

end Stencil
