import Stencil.Settings.Raw
import Stencil.Text.Blank

/-!
# Stencil.Settings.Parameter

Settings in one line of text: `key=value` pieces between commas.

* `pieces`               — the pieces, trimmed, without the empty ones.
* `Assignment.ofPiece`   — what one piece sets, or why it cannot be read.
* `RawSettings.ofParameter` — the layer that all pieces make together, a later one over an earlier.
* `ignoredKeys`          — unknown keys up to the first piece that cannot be read.
-/

namespace Stencil

def pieces (parameter : String) : List String :=
  ((Text.splitOn ',' parameter.toList).map fun piece => Text.trim (String.ofList piece)).filter
    (!·.isEmpty)

inductive Assignment where
  | template (value : String)
  | lang (value : String)
  | outputPath (value : String)
  | unit (value : String)
  | allowMerge (value : Bool)
  | overwrite (value : Bool)
  | flatten (value : Bool)
  | config (value : String)
  | ignored (key : String)
deriving DecidableEq, Repr

namespace Assignment

def boolean (key value : String) : Except SettingError Bool :=
  if value = "true" then .ok true
  else if value = "false" then .ok false
  else .error ⟨key, .notBoolean value⟩

def ofPair (key value : String) : Except SettingError Assignment :=
  match key with
  | "template" => .ok (.template value)
  | "lang" => .ok (.lang value)
  | "output_path" => .ok (.outputPath value)
  | "generate_type" => .ok (.unit value)
  | "allow_merge" => (boolean key value).map .allowMerge
  | "overwrite" => (boolean key value).map .overwrite
  | "enable_message_flatten" => (boolean key value).map .flatten
  | "config" => .ok (.config value)
  | _ => .ok (.ignored key)

/-- The first equals sign parts key and value; blanks around either do not count. -/
def ofPiece (piece : String) : Except SettingError Assignment :=
  match Text.cut '=' piece.toList with
  | none => .error ⟨piece, .noValue⟩
  | some (key, value) =>
    ofPair (Text.trim (String.ofList key)) (Text.trim (String.ofList value))

end Assignment

/-- The assignments of all pieces, or the error of the first that cannot be read. -/
def assignments : List String → Except SettingError (List Assignment)
  | [] => .ok []
  | piece :: rest =>
    match Assignment.ofPiece piece with
    | .error e => .error e
    | .ok a =>
      match assignments rest with
      | .error e => .error e
      | .ok as => .ok (a :: as)

/-- The keys of ignored pieces that stand before the first piece that cannot be read. -/
def ignoredKeys (parameter : String) : List String :=
  ((pieces parameter).map Assignment.ofPiece).takeWhile (·.isOk) |>.filterMap fun
    | .ok (.ignored key) => some key
    | _ => none

namespace RawSettings

def assign (raw : RawSettings) : Assignment → RawSettings
  | .template value => { raw with template? := some value }
  | .lang value => { raw with lang? := some value }
  | .outputPath value => { raw with outputPath? := some value }
  | .unit value => { raw with unit? := some value }
  | .allowMerge value => { raw with allowMerge? := some value }
  | .overwrite value => { raw with overwrite? := some value }
  | .flatten value => { raw with flatten? := some value }
  | .config value => { raw with config? := some value }
  | .ignored _ => raw

def ofParameter (parameter : String) : Except SettingError RawSettings :=
  match assignments (pieces parameter) with
  | .error e => .error e
  | .ok as => .ok (as.foldl assign {})

end RawSettings

end Stencil
