import Stencil.Settings

/-!
# Stencil.Settings.Raw

Settings as they are written, each set or not, before they are checked.

* `RawSettings.overlay` — two layers; what the upper one sets wins.
* `RawSettings.resolve` — defaults for what may be left out, and the checks on the rest.
-/

namespace Stencil

structure RawSettings where
  template? : Option String := none
  lang? : Option String := none
  outputPath? : Option String := none
  unit? : Option String := none
  allowMerge? : Option Bool := none
  overwrite? : Option Bool := none
  flatten? : Option Bool := none
  config? : Option String := none
deriving DecidableEq, Repr

namespace RawSettings

def overlay (lower upper : RawSettings) : RawSettings :=
  { template? := upper.template?.or lower.template?
    lang? := upper.lang?.or lower.lang?
    outputPath? := upper.outputPath?.or lower.outputPath?
    unit? := upper.unit?.or lower.unit?
    allowMerge? := upper.allowMerge?.or lower.allowMerge?
    overwrite? := upper.overwrite?.or lower.overwrite?
    flatten? := upper.flatten?.or lower.flatten?
    config? := upper.config?.or lower.config? }

/-- An empty value counts as missing. -/
def required (key : String) : Option String → Except SettingError String
  | some value => if value.isEmpty then .error ⟨key, .required⟩ else .ok value
  | none => .error ⟨key, .required⟩

def language (name : String) : Except SettingError Language :=
  match Language.ofName? name with
  | some lang => .ok lang
  | none => .error ⟨"lang", .unknownLanguage name⟩

def unit (name : String) : Except SettingError UnitKind :=
  match UnitKind.ofName? name with
  | some unit => .ok unit
  | none => .error ⟨"generate_type", .unknownUnit name⟩

def resolve (raw : RawSettings) : Except SettingError Settings := do
  let template ← required "template" raw.template?
  let language ← required "lang" raw.lang? >>= language
  let outputPath ← required "output_path" raw.outputPath?
  let unit ← required "generate_type" raw.unit? >>= unit
  return {
    template, language, outputPath, unit
    allowMerge := raw.allowMerge?.getD false
    overwrite := raw.overwrite?.getD true
    flatten := raw.flatten?.getD true }

end RawSettings

end Stencil
