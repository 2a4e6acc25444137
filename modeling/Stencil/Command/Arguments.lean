import Stencil.Text.Pieces

/-!
# Stencil.Command.Arguments

What the words of a command line ask for.

* `Invocation`  — the things that can be asked for.
* `OptionKind`  — the options of a command, and how they are written.
* `Argument`    — options with their values, as they are read one after the other.
* `Invocation.ofWords?` — the whole line; `none` for one that is not understood.
-/

namespace Stencil.Command

/-- A descriptor set on the disk, and what to make of it. -/
structure Source where
  set : String
  parameter : String
  listed : List String
deriving DecidableEq, Repr

inductive Invocation where
  | plugin
  | version
  | model (source : Source)
  | render (source : Source) (out : String)
deriving DecidableEq, Repr

inductive OptionKind where
  | set | parameter | file | out
deriving DecidableEq, Repr

namespace OptionKind

def all : List OptionKind := [set, parameter, file, out]

def letter : OptionKind → Char
  | set => 'd'
  | parameter => 'p'
  | file => 'f'
  | out => 'o'

def name : OptionKind → String
  | set => "descriptor-set"
  | parameter => "parameter"
  | file => "file"
  | out => "out"

/-- A place on the disk cannot be the empty text. -/
def allows (kind : OptionKind) (value : String) : Bool :=
  match kind with
  | set | out => !value.isEmpty
  | parameter | file => true

end OptionKind

/-- A word that begins with a hyphen is no value, unless it is nothing else. -/
def isValue (word : List Char) : Bool :=
  word == ['-'] || word.head? != some '-'

/-- The option that a word names, and the value if it is part of the word: `--name=value`,
`-lvalue` or `-l=value`. -/
def optionOf? (known : List OptionKind) : List Char → Option (OptionKind × Option (List Char))
  | '-' :: '-' :: rest =>
    let (name, value) := match Text.cut '=' rest with
      | some (name, value) => (name, some value)
      | none => (rest, none)
    (known.find? (·.name.toList == name)).map (·, value)
  | '-' :: letter :: rest =>
    let value := match rest with
      | [] => none
      | '=' :: value => some value
      | value => some value
    (known.find? (·.letter == letter)).map (·, value)
  | _ => none

structure Argument where
  kind : OptionKind
  value : String
deriving DecidableEq, Repr

/-- The options of a command with their values. Two hyphens may end them, and nothing may follow. -/
def readArguments? (known : List OptionKind) : List (List Char) → Option (List Argument)
  | [] => some []
  | [['-', '-']] => some []
  | word :: rest =>
    match optionOf? known word, rest with
    | some (kind, some value), rest =>
      (readArguments? known rest).map (⟨kind, String.ofList value⟩ :: ·)
    | some (kind, none), value :: rest =>
      if isValue value then
        (readArguments? known rest).map (⟨kind, String.ofList value⟩ :: ·)
      else none
    | _, _ => none

def valuesOf (kind : OptionKind) (args : List Argument) : List String :=
  (args.filter (·.kind == kind)).map (·.value)

def once? : List String → Option String
  | [value] => some value
  | _ => none

def Source.ofArguments? (args : List Argument) : Option Source :=
  match once? (valuesOf .set args), once? (valuesOf .parameter args) with
  | some set, some parameter => some ⟨set, parameter, valuesOf .file args⟩
  | _, _ => none

/-- Without a directory the files are written where the program runs. -/
def outOf? (args : List Argument) : Option String :=
  match valuesOf .out args with
  | [] => some "."
  | values => once? values

/-- The arguments of a command, all with values that are allowed. -/
def arguments? (known : List OptionKind) (words : List (List Char)) : Option (List Argument) :=
  match readArguments? known words with
  | some args => if args.all fun a => a.kind.allows a.value then some args else none
  | none => none

def modelOf? (words : List (List Char)) : Option Invocation :=
  match arguments? [.set, .parameter, .file] words with
  | some args => (Source.ofArguments? args).map .model
  | none => none

def renderOf? (words : List (List Char)) : Option Invocation :=
  match arguments? OptionKind.all words with
  | some args =>
    match Source.ofArguments? args, outOf? args with
    | some source, some out => some (.render source out)
    | _, _ => none
  | none => none

/-- The question for the version is answered at once, whatever follows it. -/
def Invocation.ofWords? (words : List String) : Option Invocation :=
  match words with
  | [] | ["--"] => some .plugin
  | "--version" :: _ => some .version
  | "model" :: rest => modelOf? (rest.map String.toList)
  | "render" :: rest => renderOf? (rest.map String.toList)
  | word :: _ => if ['-', 'V'].isPrefixOf word.toList then some .version else none

end Stencil.Command
