import Stencil.Generation
import Stencil.Journal

/-!
# Stencil.Generation.Events

The events of a run, in the order in which its stages work: settings, models, rendering, collection.
A stage that fails has told what it did before.
-/

namespace Stencil

/-- Unknown keys of the parameter. What a settings file holds is not told. -/
def Request.settingEvents (r : Request) : List Event :=
  (ignoredKeys r.parameter).map .ignoredKey

def Builder.events (b : Builder) (file : FileDecl) (m : Model) : List Event :=
  ((unlinked m.package file.services m.messages).map fun (method, typeName) =>
      Event.unlinked method typeName) ++
    [.built m.fileName m.messages.length m.services.length b.flatten]

/-- For every model that is built. -/
def Request.buildEvents (r : Request) (b : Builder) : List Event :=
  (r.builtNames b).flatMap fun name =>
    match r.file? name, r.attempt b name with
    | some file, .ok m => b.events file m
    | _, _ => []

def modelEvents (r : Request) (s : Settings) : List Event :=
  let built := r.buildEvents s.builder
  match attemptAll (r.attempt s.builder) r.listed with
  | .error _ => built
  | .ok models => if s.allowMerge then built ++ [.merging models.length] else built

/-- For every model whose files are all rendered. -/
def Renderer.events {engine : Engine} (renderer : Renderer engine) (models : List Model)
    (unit : UnitKind) : List Event :=
  (renderedModels renderer.render models unit).map fun m => .rendered m.fileName unit

/-- For every file that is dropped, and one for the run as a whole. -/
def collectEvents (disk : Disk) (root : String) (made : Rendering) : List Event :=
  let judged := verdicts disk root made.settings.overwrite made.files
  let dropped := judged.filterMap fun (file, verdict) =>
    match verdict with
    | .keep => none
    | .repeated => some (.repeatedPath file.path)
    | .existing => some (.existingFile file.path)
  dropped ++ [.complete (kept judged).length made.settings.language made.settings.unit]

/-- The events from the settings to the rendered files. -/
def Request.renderingEvents (kit : Toolkit) (disk : Disk) (r : Request) : List Event :=
  r.settingEvents ++
    match Settings.read kit.toml disk r with
    | .error _ => []
    | .ok settings =>
      match settings.renderer kit disk with
      | .error _ => []
      | .ok renderer =>
        modelEvents r settings ++
          match buildModels r settings with
          | .error _ => []
          | .ok models => renderer.events models settings.unit

/-- The events of `generate`. -/
def generationEvents (kit : Toolkit) (disk : Disk) (root : String) (r : Request) : List Event :=
  r.renderingEvents kit disk ++
    match r.rendering kit disk with
    | .error _ => []
    | .ok made => collectEvents disk root made

def Written.events (w : Written) : List Event :=
  w.files.map fun file => .wrote file.name

end Stencil
