import Stencil.Data
import Stencil.Request

/-!
# Stencil.Toolkit

What the program takes from libraries and does not do itself.

* `Engine`      — templates: an environment of filters and compiled templates, and rendering in it.
* `Wording`     — names in another letter case, and English words in another number.
* `Toml.Reader` — settings files.
* `Codec`       — requests, descriptor sets and responses as bytes.
* `Toolkit`     — all of these, and a printer.

The program and what is proved about it are given for any toolkit. An error of a library is known by
its text alone, as the program does nothing with it but show it.
-/

namespace Stencil

inductive EngineFault where
  /-- An error: its long text, and the short texts of the error and of those behind it. -/
  | error (text : String) (chain : List String)
  /-- The program is stopped. -/
  | panic
deriving DecidableEq, Repr

def EngineFault.text : EngineFault → String
  | error text _ => text
  | panic => ""

def EngineFault.chain : EngineFault → List String
  | error _ chain => chain
  | panic => []

/-- A function that templates apply to a text. -/
inductive TextFilter where
  /-- Without a result the program is stopped. -/
  | onText (f : String → Option String)
  | asking (f : String → String → Bool)

structure Engine where
  Environment : Type
  empty : Environment
  /-- A newline at the end of a template is written like any other character. -/
  keepFinalNewline : Environment → Environment
  addFilter : Environment → (name : String) → TextFilter → Environment
  /-- Compiles the source of a template. -/
  addTemplate : Environment → (name source : String) → Except EngineFault Environment
  /-- The text of the template of a name for the values of variables. -/
  render : Environment → (name : String) → List (String × Data) → Except EngineFault String

inductive WordCase where
  | pascal | camel | snake | kebab
deriving DecidableEq, Repr

structure Wording where
  inCase : WordCase → String → String
  /-- A word as it goes with a count, on demand with the count in front. Without a result the
  program is stopped. -/
  counted : (word : String) → (count : Int) → (inclusive : Bool) → Option String

namespace Toml

/-- What stands under a key, as far as settings can tell. -/
inductive Value where
  | text (s : String)
  | boolean (b : Bool)
  /-- Neither; messages call it by this name. -/
  | other (kind : String)
  /-- Well formed, but without a value when it is asked for. -/
  | broken (fault : String)
deriving DecidableEq, Repr

abbrev Entries := List (String × Value)

structure Reader where
  /-- The entries of a document as they are visited, or what is wrong with it. -/
  entries : (source : String) → Except String Entries
  /-- A message about the entry of a key, with its place in the document. -/
  placed : (source key message : String) → String

/-- A document defines a key once. -/
def Reader.KeysApart (toml : Reader) : Prop :=
  ∀ source entries, toml.entries source = .ok entries → (entries.map (·.1)).Nodup

end Toml

structure Codec where
  request : ByteArray → Except String Request
  descriptorSet : ByteArray → Except String (List FileDecl)
  response : Response → ByteArray

structure Toolkit where
  engine : Engine
  wording : Wording
  toml : Toml.Reader
  codec : Codec
  /-- A value as text with an element on each line. -/
  pretty : Data → String

end Stencil
