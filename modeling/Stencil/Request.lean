import Stencil.Schema

/-!
# Stencil.Request

What a run is asked to do and what it answers.

* `Request`    — the files to generate from, the parameter, and the declarations of all files.
* `Response`   — the generated files, or the text of an error.
* `Request.ofSet` — a request for files of a descriptor set.
-/

namespace Stencil

structure Request where
  listed : List String := []
  parameter? : Option String := none
  files : List FileDecl := []

def Request.parameter (r : Request) : String := r.parameter?.getD ""

/-- Without a list, every file of the set is asked for. -/
def Request.ofSet (files : List FileDecl) (parameter : String) (listed : List String) : Request :=
  { listed := if listed.isEmpty then files.map (·.name) else listed
    parameter? := some parameter
    files }

structure OutputFile where
  name : String
  content : String
deriving DecidableEq, Repr

structure Response where
  error? : Option String := none
  supportedFeatures? : Option Nat := none
  files : List OutputFile := []
deriving DecidableEq, Repr

/-- Fields marked optional are understood. -/
def Response.features : Nat := 1

def Response.ofFiles (files : List OutputFile) : Response :=
  { supportedFeatures? := some features, files }

def Response.ofError (text : String) : Response :=
  { error? := some text, supportedFeatures? := some features }

end Stencil
