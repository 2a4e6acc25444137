import Stencil.Disk
import Stencil.Model.Link

/-!
# Stencil.Settings

The settings of one run.

* `UnitKind`     — what one rendered file is made from.
* `Settings`     — complete and valid settings.
* `SettingError` — what is wrong with a setting, and which one it is.
-/

namespace Stencil

inductive UnitKind where
  | message | service | method | file
deriving DecidableEq, Repr

namespace UnitKind

def all : List UnitKind := [message, service, method, file]

def name : UnitKind → String
  | message => "message"
  | service => "service"
  | method => "method"
  | file => "file"

def ofName? (s : String) : Option UnitKind :=
  all.find? (·.name == s)

end UnitKind

structure Settings where
  template : String
  language : Language
  outputPath : String
  unit : UnitKind
  allowMerge : Bool
  overwrite : Bool
  flatten : Bool
deriving DecidableEq, Repr

def Settings.builder (s : Settings) : Builder :=
  ⟨s.language, s.flatten⟩

inductive SettingFault where
  | noValue
  | notBoolean (given : String)
  | required
  | unknownLanguage (given : String)
  | unknownUnit (given : String)
  | unreadable (path : String) (fault : DiskFault)
  /-- Said of a settings file by the one who reads it. -/
  | invalid (text : String)
deriving DecidableEq, Repr

structure SettingError where
  key : String
  fault : SettingFault
deriving DecidableEq, Repr

def SettingFault.message : SettingFault → String
  | noValue => "has no value"
  | notBoolean given => s!"must be `true` or `false`, got `{given}`"
  | required => "is required"
  | unknownLanguage given => s!"has unknown language `{given}`"
  | unknownUnit given => s!"has unknown unit `{given}`"
  | unreadable path fault => s!"cannot read {path}: {fault.message}"
  | invalid text => s!"is not valid: {text}"

def SettingError.message (e : SettingError) : String :=
  s!"configuration error: option `{e.key}` {e.fault.message}"

end Stencil
