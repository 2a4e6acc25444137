import Stencil.Command

/-!
# Stencil.Command.Paths

Where on the disk a run looks. The paths are found one after the other: the settings name the
template, and the rendered files are named only when the template is known. `Invocation.paths` gives
those that follow from what a disk holds so far, so that a disk can be filled in a few rounds.
-/

namespace Stencil

/-- The settings file, the template and the rendered files, as far as they are known. -/
def Request.paths (kit : Toolkit) (disk : Disk) (root : String) (r : Request) : List String :=
  let settingsFile :=
    match RawSettings.ofParameter r.parameter with
    | .ok raw => raw.config?.toList
    | .error _ => []
  let template :=
    match Settings.read kit.toml disk r with
    | .ok s => [s.template]
    | .error _ => []
  let rendered :=
    match r.rendering kit disk with
    | .ok made => made.files.map fun file => Path.join root file.path
    | .error _ => []
  settingsFile ++ template ++ rendered

namespace Command

def Source.paths (kit : Toolkit) (disk : Disk) (root : String) (s : Source) : List String :=
  match s.load kit.codec disk with
  | .ok r => s.set :: r.paths kit disk root
  | .error _ => [s.set]

def Invocation.paths (kit : Toolkit) (disk : Disk) (input : ByteArray) :
    Invocation → List String
  | .plugin =>
    match kit.codec.request input with
    | .ok r => r.paths kit disk "."
    | .error _ => []
  | .version => []
  | .model source => source.paths kit disk "."
  | .render source out => source.paths kit disk out

/-- The descriptor set, the settings file, the template, the rendered files. -/
def rounds : Nat := 4

end Command

end Stencil
