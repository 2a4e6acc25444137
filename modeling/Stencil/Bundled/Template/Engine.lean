import Stencil.Bundled.Template.Render

/-!
# Stencil.Bundled.Template.Engine

The template language as an engine.

* `Fault.inTemplate` — a fault as it is shown.
* `Environment`      — filters, and compiled templates by name.
-/

namespace Stencil.Bundled.Template

def FaultKind.text : FaultKind → String
  | malformed => "syntax error"
  | badEscape => "bad string escape"
  | undefined => "undefined value"
  | unknownFilter => "unknown filter"
  | unknownTest => "unknown test"
  | unknownFunction => "unknown function"
  | unknownMethod => "unknown method"
  | missingArgument => "missing argument"
  | tooManyArguments => "too many arguments"
  | invalidOperation => "invalid operation"
  | templateNotFound => "template not found"
  | badInclude => "could not render include"
  | stopped => ""

/-- The kind of a fault and its place. More is not told. -/
def Fault.inTemplate (f : Fault) (name : String) : EngineFault :=
  if f.kind = .stopped then .panic
  else
    let text := s!"{f.kind.text} (in {name}:{f.line})"
    .error text [text]

def withoutFinalNewline (source : String) : String :=
  match source.toList.reverse with
  | '\n' :: '\r' :: before => String.ofList before.reverse
  | '\n' :: before => String.ofList before.reverse
  | _ => source

structure Environment where
  keepsNewline : Bool := false
  filters : List (String × TextFilter) := []
  templates : Library := []

namespace Environment

def addTemplate (env : Environment) (name source : String) : Except EngineFault Environment :=
  match compile (if env.keepsNewline then source else withoutFinalNewline source) with
  | .error f => .error (f.inTemplate name)
  | .ok body => .ok { env with templates := (name, body) :: env.templates }

def render (env : Environment) (name : String) (bindings : List (String × Data)) :
    Except EngineFault String :=
  match env.templates.lookup name with
  | none => .error ((⟨.templateNotFound, 1⟩ : Fault).inTemplate name)
  | some body =>
    match env.templates.render env.filters body (Value.ofFields bindings) with
    | .error f => .error (f.inTemplate name)
    | .ok text => .ok text

end Environment

def engine : Engine where
  Environment := Environment
  empty := {}
  keepFinalNewline env := { env with keepsNewline := true }
  addFilter env name filter := { env with filters := (name, filter) :: env.filters }
  addTemplate := Environment.addTemplate
  render := Environment.render

end Stencil.Bundled.Template
