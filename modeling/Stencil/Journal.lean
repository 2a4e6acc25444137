import Stencil.Settings
import Stencil.Text.Blank
import Stencil.Text.Digits
import Stencil.Text.Quoted
import Stencil.Text.WordTable

/-!
# Stencil.Journal

What a run tells about itself while it works.

* `Level`, `Component` — how serious an event is, and which part of the program speaks.
* `Event`              — the events; `Event.line` is how one is shown.
* `Threshold`          — how serious the events of some components must be to be shown.
* `Verbosity`          — several thresholds together; `Verbosity.ofText` reads them.
-/

namespace Stencil

inductive Level where
  | error | warn | info | debug
deriving DecidableEq, Repr

namespace Level

def name : Level → String
  | error => "ERROR"
  | warn => "WARN"
  | info => "INFO"
  | debug => "DEBUG"

/-- A more serious level has a smaller rank. -/
def rank : Level → Nat
  | error => 1
  | warn => 2
  | info => 3
  | debug => 4

end Level

inductive Component where
  | settings | linker | builder | pipeline | renderer | output
deriving DecidableEq, Repr

/-- By these names thresholds speak of components. -/
def Component.name : Component → String
  | settings => "protogen_core::options"
  | linker => "protogen_core::linker"
  | builder => "protogen_core::builder"
  | pipeline => "protoc_gen_template::plugin"
  | renderer => "protoc_gen_template::render"
  | output => "protoc_gen_template::output"

inductive Event where
  | ignoredKey (key : String)
  | unlinked (method typeName : String)
  | built (file : String) (messages services : Nat) (flatten : Bool)
  | merging (files : Nat)
  | rendered (file : String) (unit : UnitKind)
  | repeatedPath (path : String)
  | existingFile (path : String)
  | complete (files : Nat) (language : Language) (unit : UnitKind)
  | wrote (path : String)
  | failed (reason : String)
deriving DecidableEq, Repr

namespace Event

def level : Event → Level
  | failed _ => .error
  | ignoredKey _ | repeatedPath _ => .warn
  | existingFile _ | complete _ _ _ | wrote _ => .info
  | unlinked _ _ | built _ _ _ _ | merging _ | rendered _ _ => .debug

def component : Event → Component
  | ignoredKey _ => .settings
  | unlinked _ _ => .linker
  | built _ _ _ _ => .builder
  | merging _ | complete _ _ _ | failed _ => .pipeline
  | rendered _ _ => .renderer
  | repeatedPath _ | existingFile _ | wrote _ => .output

/-- Keys, names and types are quoted where the model is made and shown plainly behind that. -/
def text : Event → String
  | ignoredKey key => s!"ignoring unknown option key={Text.quoted key}"
  | unlinked method typeName =>
    "message not in current model, leaving unlinked " ++
      s!"method={Text.quoted method} type_name={Text.quoted typeName}"
  | built file messages services flatten =>
    s!"built file model file={Text.quoted file} messages={messages} " ++
      s!"services={services} flatten={flatten}"
  | merging files => s!"merging file models files={files}"
  | rendered file unit => s!"rendered model file={file} unit={unit.name}"
  | repeatedPath path => s!"path rendered more than once, keeping the first path={path}"
  | existingFile path => s!"skipping existing file path={path}"
  | complete files language unit =>
    s!"generation complete files={files} lang={language.name} unit={unit.name}"
  | wrote path => s!"wrote file path={path}"
  | failed reason => s!"generation failed error={reason}"

def line (e : Event) : String :=
  e.level.name ++ " " ++ e.text

end Event

/-- The names of the ranks, the most serious first. -/
def rankNames : List String := ["off", "error", "warn", "info", "debug", "trace"]

/-- A rank by its name in any case, or by its number. -/
def rankOf? (s : String) : Option Nat :=
  match rankNames.idxOf? (s.map Char.toLower) with
  | some rank => some rank
  | none =>
    match Text.unsigned? s.toList with
    | some n => if n < rankNames.length then some n else none
    | none => none

/-- Shows events up to a rank: of all components, or of those whose name begins as given. -/
structure Threshold where
  target? : Option String := none
  rank : Nat
deriving DecidableEq, Repr

namespace Threshold

def concerns (t : Threshold) (e : Event) : Bool :=
  t.target?.all fun name => name.toList.isPrefixOf e.component.name.toList

/-- A longer beginning says more about a component. -/
def weight (t : Threshold) : Nat :=
  (t.target?.map (·.length + 1)).getD 0

/-- Everything is below this rank. -/
def lowest : Nat := 5

def startsName (c : Char) : Bool :=
  Text.isWordChar c || c == '-' || c == ':'

/-- A rank, the beginning of a name, or both around an equals sign, where the rank may be left out.
The text is judged without the blanks around it, but what is found at a place there is taken from
the same place of the full text. -/
def ofText? (s : String) : Option Threshold :=
  let inner := (Text.trim s).toList
  if !inner.head?.any startsName then none
  else
    match Text.cut '=' inner with
    | none =>
      match rankOf? s with
      | some rank => some { rank }
      | none => some { target? := some s, rank := lowest }
    | some (name, _) =>
      let target? := some (String.ofList (s.toList.take name.length))
      let rank := String.ofList (s.toList.drop (name.length + 1))
      if rank.isEmpty then some { target?, rank := lowest }
      else (rankOf? rank).map fun rank => { target?, rank }

end Threshold

/-- Thresholds in the order in which they were given. -/
abbrev Verbosity := List Threshold

namespace Verbosity

/-- Of the thresholds that concern an event the weightiest decides, and of equal ones the last. -/
def rank (v : Verbosity) (e : Event) : Nat :=
  (((v.filter (·.concerns e)).foldl (fun best t =>
    if best.any (t.weight < ·.weight) then best else some t) none).map (·.rank)).getD 0

def shows (v : Verbosity) (e : Event) : Bool :=
  e.level.rank ≤ v.rank e

/-- Errors and warnings. -/
def standard : Verbosity := [{ rank := Level.warn.rank }]

/-- The thresholds between commas. If there is none, only errors are shown. -/
def ofText? (s : String) : Option Verbosity :=
  match (Text.splitOn ',' s.toList).filter (!·.isEmpty) with
  | [] => some [{ rank := Level.error.rank }]
  | pieces => pieces.mapM fun piece => Threshold.ofText? (String.ofList piece)

/-- A text that cannot be read counts as not given. -/
def ofText (s? : Option String) : Verbosity :=
  (s?.bind ofText?).getD standard

end Verbosity

end Stencil
