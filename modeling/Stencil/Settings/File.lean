import Stencil.Settings.Parameter
import Stencil.Text.Quoted
import Stencil.Toolkit

/-!
# Stencil.Settings.File

Settings in a TOML file, and the two sources together.

* `Misfit`             — why an entry of a file is no setting.
* `RawSettings.ofToml` — the layer that a document makes.
* `RawSettings.ofFile` — the same from a file on the disk.
* `Settings.ofParameter` — the settings of a run: the pieces of a parameter over the one file that
  they may name.
-/

namespace Stencil

inductive Misfit where
  | unknownKey (key : String)
  | notText (found : String)
  | notBoolean (found : String)
  | broken (fault : String)
deriving DecidableEq, Repr

/-- The keys that a settings file may hold. -/
def fileKeys : List String :=
  ["template", "lang", "output_path", "generate_type", "allow_merge", "overwrite",
    "enable_message_flatten"]

def Misfit.message : Misfit → String
  | unknownKey key =>
    s!"unknown field `{key}`, expected one of " ++
      ", ".intercalate (fileKeys.map fun key => s!"`{key}`")
  | notText found => s!"invalid type: {found}, expected a string"
  | notBoolean found => s!"invalid type: {found}, expected a boolean"
  | broken fault => fault

/-- What a value is called where another kind was expected. -/
def Toml.Value.misfit (expected : String → Misfit) : Toml.Value → Misfit
  | text s => expected s!"string {Text.quoted s}"
  | boolean b => expected s!"boolean `{b}`"
  | other kind => expected kind
  | broken fault => .broken fault

namespace RawSettings

def textOf : Toml.Value → Except Misfit String
  | .text s => .ok s
  | v => .error (v.misfit .notText)

def booleanOf : Toml.Value → Except Misfit Bool
  | .boolean b => .ok b
  | v => .error (v.misfit .notBoolean)

/-- A file cannot name another file. -/
def assignEntry (raw : RawSettings) (key : String) (v : Toml.Value) : Except Misfit RawSettings :=
  match key with
  | "template" => (textOf v).map fun s => raw.assign (.template s)
  | "lang" => (textOf v).map fun s => raw.assign (.lang s)
  | "output_path" => (textOf v).map fun s => raw.assign (.outputPath s)
  | "generate_type" => (textOf v).map fun s => raw.assign (.unit s)
  | "allow_merge" => (booleanOf v).map fun b => raw.assign (.allowMerge b)
  | "overwrite" => (booleanOf v).map fun b => raw.assign (.overwrite b)
  | "enable_message_flatten" => (booleanOf v).map fun b => raw.assign (.flatten b)
  | _ => .error (.unknownKey key)

/-- All entries, or the key of the first that does not fit. -/
def assignEntries (raw : RawSettings) : Toml.Entries → Except (String × Misfit) RawSettings
  | [] => .ok raw
  | (key, v) :: rest =>
    match raw.assignEntry key v with
    | .error misfit => .error (key, misfit)
    | .ok raw => raw.assignEntries rest

def ofToml (toml : Toml.Reader) (source : String) : Except SettingError RawSettings :=
  match toml.entries source with
  | .error text => .error ⟨"config", .invalid text⟩
  | .ok entries =>
    match assignEntries {} entries with
    | .error (key, misfit) =>
      .error ⟨"config", .invalid (toml.placed source key misfit.message)⟩
    | .ok raw => .ok raw

def ofFile (toml : Toml.Reader) (disk : Disk) (path : String) : Except SettingError RawSettings :=
  match disk.readText path with
  | .error fault => .error ⟨"config", .unreadable path fault⟩
  | .ok source => ofToml toml source

/-- What the pieces set, over what the file they name sets. -/
def layered (toml : Toml.Reader) (disk : Disk) (parameter : String) :
    Except SettingError RawSettings :=
  match ofParameter parameter with
  | .error e => .error e
  | .ok inline =>
    match inline.config? with
    | none => .ok inline
    | some path =>
      match ofFile toml disk path with
      | .error e => .error e
      | .ok file => .ok (file.overlay inline)

end RawSettings

def Settings.ofParameter (toml : Toml.Reader) (disk : Disk) (parameter : String) :
    Except SettingError Settings :=
  match RawSettings.layered toml disk parameter with
  | .error e => .error e
  | .ok raw => raw.resolve

end Stencil
