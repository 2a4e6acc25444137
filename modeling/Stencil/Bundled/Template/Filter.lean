import Stencil.Bundled.Template.Value
import Stencil.Text.Letter
import Stencil.Text.Pieces
import Stencil.Toolkit

/-!
# Stencil.Bundled.Template.Filter

Filters and tests.

* `Given`      — the arguments of a call: values, and named values behind them.
* `Filter.named?` — the filter of a name: how it turns a value into another.
* `Test.named?`   — the test of a name.

A filter takes its arguments in order: a missing one, one of the wrong kind and one too many are
noticed in this order.
-/

namespace Stencil.Bundled.Template

structure Given where
  values : List Value := []
  named : List (String × Value) := []

inductive Argument where
  | plain (v : Value)
  /-- All named arguments of a call together. -/
  | fields (named : List (String × Value))

namespace Given

/-- The arguments as a list; named ones count as a single argument at its end. -/
def toList (g : Given) : List Argument :=
  g.values.map .plain ++ if g.named.isEmpty then [] else [.fields g.named]

end Given

namespace Argument

def text : Argument → Except FaultKind String
  | plain (.text s) => .ok s
  | _ => .error .invalidOperation

/-- The text that would be written for a value. -/
def written : Argument → Except FaultKind String
  | plain v => .ok v.written
  | fields _ => .error .invalidOperation

def flag : Argument → Except FaultKind Bool
  | plain (.boolean b) => .ok b
  | _ => .error .invalidOperation

def value : Argument → Except FaultKind Value
  | plain v => .ok v
  | fields named => .ok (.record named)

/-- An argument that says nothing counts as left out. -/
def isVoid : Argument → Bool
  | plain .undefined | plain .none => true
  | _ => false

/-- The first argument, which must be there. -/
def required {α : Type} (read : Argument → Except FaultKind α) :
    List Argument → Except FaultKind (α × List Argument)
  | [] => .error .missingArgument
  | a :: rest => (read a).map (·, rest)

/-- The first argument, if there is one. -/
def optional {α : Type} (read : Argument → Except FaultKind α) :
    List Argument → Except FaultKind (Option α × List Argument)
  | [] => .ok (none, [])
  | a :: rest => if a.isVoid then .ok (none, rest) else (read a).map fun x => (some x, rest)

end Argument

abbrev Filter := Value → Given → Except FaultKind Value

namespace Filter

open Argument (required optional)

def noMore (args : List Argument) (v : Value) : Except FaultKind Value :=
  if args.isEmpty then .ok v else .error .tooManyArguments

/-- A function on texts alone. -/
def onText (f : String → Except FaultKind String) : Filter := fun v g => do
  let s ← (Argument.plain v).text
  let _ ← noMore g.toList v
  return .text (← f s)

/-- A question about a text and another one. -/
def asking (f : String → String → Bool) : Filter := fun v g => do
  let s ← (Argument.plain v).text
  let (other, rest) ← required Argument.text g.toList
  noMore rest (.boolean (f s other))

/-- A function on the text that would be written for a value. -/
def onWritten (f : String → String) : Filter := fun v g =>
  noMore g.toList (.text (f v.written))

/-- A filter that is not part of the language. -/
def ofText : TextFilter → Filter
  | .onText f => onText fun s =>
    match f s with
    | some s => .ok s
    | none => .error .stopped
  | .asking f => asking f

def length : Filter := fun v g => do
  let _ ← noMore g.toList v
  match v.length with
  | some n => .ok (.number n)
  | none => .error .invalidOperation

def replace : Filter := fun v g => do
  let (old, rest) ← required Argument.written g.toList
  let (new, rest) ← required Argument.written rest
  noMore rest (.text (String.ofList (Text.replaceAll old.toList new.toList v.written.toList)))

/-- Without a separator nothing stands between the items. -/
def join : Filter := fun v g => do
  let (separator, rest) ← optional Argument.written g.toList
  let _ ← noMore rest v
  match v.items with
  | some items => .ok (.text ((separator.getD "").intercalate (items.map (·.written))))
  | none => .error .invalidOperation

/-- Another value in place of an undefined one, and on demand of any that is not true. -/
def default : Filter := fun v g => do
  let (other, rest) ← optional Argument.value g.toList
  let (anyFalse, rest) ← optional Argument.flag rest
  let isMissing := match v with
    | .undefined => true
    | v => anyFalse.getD false && !v.isTrue
  noMore rest (if isMissing then other.getD (.text "") else v)

def ofLanguage? : String → Option Filter
  | "length" => some length
  | "upper" => some (onWritten Text.upper)
  | "lower" => some (onWritten Text.lower)
  | "replace" => some replace
  | "join" => some join
  | "default" => some default
  | _ => none

/-- The filters that work on a value as a whole. Those that were added come first. -/
def whole? (added : List (String × TextFilter)) (name : String) : Option Filter :=
  ((added.lookup name).map ofText).or (ofLanguage? name)

/-- A part of a value: by a text that leads to it step by step, or by any other index. -/
def part (index v : Value) : Option Value :=
  match index with
  | .text steps => v.path steps
  | index => v.item index

/-- The same part of every item. With a substitute no item fails to have one. -/
def mapPart (index : Value) (named : List (String × Value)) (v : Value) :
    Except FaultKind Value := do
  let substitute := (named.lookup "default").getD .undefined
  let pick (item : Value) : Except FaultKind Value :=
    match part index item, substitute with
    | none, .undefined => .error .undefined
    | none, substitute => .ok substitute
    | some .undefined, substitute => .ok substitute
    | some found, _ => .ok found
  let some items := v.items | .error .invalidOperation
  let found ← items.mapM pick
  if named.all fun (name, _) => name == "attribute" || name == "default" then .ok (.list found)
  else .error .tooManyArguments

section

variable (added : List (String × TextFilter))

/-- A filter for every item: its name, then its arguments. -/
def mapFilter : List Value → Value → Except FaultKind Value
  | .text "map" :: args, v =>
    match v.items with
    | some items => (items.mapM (mapFilter args)).map .list
    | none => .error .invalidOperation
  | .text name :: args, v =>
    match whole? added name, v.items with
    | some filter, some items => (items.mapM fun item => filter item { values := args }).map .list
    | some _, none => .error .invalidOperation
    | none, _ => .error .unknownFilter
  | _, _ => .error .invalidOperation

def map : Filter := fun v g =>
  match (g.named.lookup "attribute").getD .none with
  | .undefined | .none => mapFilter added g.values v
  | index => if g.values.isEmpty then mapPart index g.named v else .error .tooManyArguments

def named? (name : String) : Option Filter :=
  if name == "map" then some (map added) else whole? added name

end

end Filter

namespace Test

def named? : String → Option (Value → Bool)
  | "defined" => some fun | .undefined => false | _ => true
  | "undefined" => some fun | .undefined => true | _ => false
  | "none" => some fun | .none => true | _ => false
  | _ => none

/-- A test takes no arguments. -/
def apply (test : Value → Bool) (v : Value) (g : Given) : Except FaultKind Value :=
  Filter.noMore g.toList (.boolean (test v))

end Test

end Stencil.Bundled.Template
