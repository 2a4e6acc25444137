import Stencil.Bundled.Template.Filter
import Stencil.Bundled.Template.Fold

/-!
# Stencil.Bundled.Template.Render

What a template writes for given variables.

* `Scope`      — variables in frames, the innermost first. A loop adds a frame for every round; what
  is set inside it is gone behind it.
* `Expr.eval`  — the value of an expression.
* `Node.run`   — the output of a node, and the scope after it.
* `Library`    — compiled templates by name; an included template sees the variables of the place
  where it is included.
* `Library.render` — the output of a template.
-/

namespace Stencil.Bundled.Template

abbrev Frame := List (String × Value)

structure Scope where
  frames : List Frame
  /-- The filters that are not part of the language. -/
  filters : List (String × TextFilter)
  /-- The inclusions around this place. -/
  inclusions : Nat := 0

namespace Scope

def lookup (s : Scope) (name : String) : Option Value :=
  s.frames.findSome? (·.lookup name)

/-- Sets a variable in the innermost frame. -/
def set (s : Scope) (name : String) (v : Value) : Scope :=
  match s.frames with
  | [] => { s with frames := [[(name, v)]] }
  | frame :: outer => { s with frames := ((name, v) :: frame.filter (·.1 != name)) :: outer }

def inside (s : Scope) (frame : Frame) : Scope :=
  { s with frames := frame :: s.frames }

/-- An inclusion weighs as much as ten frames. -/
def depth (s : Scope) : Nat :=
  s.frames.length + 10 * s.inclusions

/-- No frame is added beyond this depth, and no inclusion leads beyond it. -/
def maxDepth : Nat := 500

end Scope

def orFault {α : Type} (kind : FaultKind) (line : Nat) : Option α → Except Fault α
  | some a => .ok a
  | none => .error ⟨kind, line⟩

def atLine {α : Type} (line : Nat) : Except FaultKind α → Except Fault α
  | .ok a => .ok a
  | .error kind => .error ⟨kind, line⟩

/-- Why a method of a value cannot be called: it is no function, or there is none of that name. -/
def methodFault (v : Value) (name : String) : FaultKind :=
  match v with
  | .record fields => if (fields.lookup name).isSome then .invalidOperation else .unknownMethod
  | _ => .unknownMethod

/-- Why a name cannot be called. There are no functions, and two names are taken for other uses. -/
def callFault (s : Scope) (name : String) : FaultKind :=
  if name == "super" || name == "loop" || (s.lookup name).isSome then .invalidOperation
  else .unknownFunction

mutual

/-- A choice, `and`, `or` and a chain of comparisons evaluate only what they need. Filters, tests
and functions are looked up after the values that they are applied to. -/
def Expr.eval (s : Scope) : Expr → Except Fault Value
  | .const v _ => .ok v
  | .var name _ => .ok ((s.lookup name).getD .undefined)
  | .attr e name => do
    orFault .undefined e.line ((← e.eval s).attr name)
  | .item e index => do
    let v ← e.eval s
    orFault .undefined index.line (v.item (← index.eval s))
  | .negative e _ => do
    orFault .invalidOperation e.line (← e.eval s).negative?
  | .not e _ => do
    return .boolean !(← e.eval s).isTrue
  | .and a b =>
    match (Expr.and a b).constant? with
    | some (v, _) => .ok v
    | none => do
      let v ← a.eval s
      if v.isTrue then b.eval s else return v
  | .or a b =>
    match (Expr.or a b).constant? with
    | some (v, _) => .ok v
    | none => do
      let v ← a.eval s
      if v.isTrue then return v else b.eval s
  | .compare e links => do
    return .boolean (← links.hold s (← e.eval s))
  | .join a b => do
    let v ← a.eval s
    return .text (v.written ++ (← b.eval s).written)
  | .choice test yes => do
    if (← test.eval s).isTrue then yes.eval s else return .undefined
  | .choiceElse test yes no => do
    if (← test.eval s).isTrue then yes.eval s else no.eval s
  | .filter name e args => do
    let v ← e.eval s
    let given ← args.eval s
    let line := args.lineFrom args.areFixed e.line
    let filter ← orFault .unknownFilter line (Filter.named? s.filters name)
    atLine line (filter v given)
  | .test name e args => do
    let v ← e.eval s
    let given ← args.eval s
    let line := args.lineFrom args.areFixed e.line
    let test ← orFault .unknownTest line (Test.named? name)
    atLine line (Test.apply test v given)
  | .call name args line => do
    let _ ← args.eval s
    .error ⟨callFault s name, args.lineFrom args.areFixed line⟩
  | .method e name args => do
    let v ← e.eval s
    let _ ← args.eval s
    .error ⟨methodFault v name, args.lineFrom args.areFixed e.line⟩
  | .apply e args => do
    let _ ← e.eval s
    let _ ← args.eval s
    .error ⟨.invalidOperation, args.lineFrom args.areFixed e.line⟩

/-- Whether all comparisons behind a value hold. -/
def Links.hold (s : Scope) (v : Value) : Links → Except Fault Bool
  | .done => .ok true
  | .equal e rest => do
    let w ← e.eval s
    if v.same w then rest.hold s w else return false
  | .differs e rest => do
    let w ← e.eval s
    if v.same w then return false else rest.hold s w

/-- Of two arguments of one name the later one counts. -/
def Args.eval (s : Scope) : Args → Except Fault Given
  | .done => .ok {}
  | .value e rest => do
    let v ← e.eval s
    let given ← rest.eval s
    return { given with values := v :: given.values }
  | .named name e rest => do
    let v ← e.eval s
    let given ← rest.eval s
    let named := if (given.named.lookup name).isSome then given.named else (name, v) :: given.named
    return { given with named }

end

/-- What is known inside a loop about the item at `index` of `length`, and its neighbours. -/
def loopRecord (index length : Nat) (before after : Value) : Value :=
  .record [("index", .number (index + 1)), ("index0", .number index),
    ("revindex", .number (length - index)), ("revindex0", .number (length - index - 1)),
    ("first", .boolean (index == 0)), ("last", .boolean (index + 1 == length)),
    ("length", .number length), ("depth", .number 1), ("depth0", .number 0), ("previtem", before),
    ("nextitem", after)]

/-- Items for which a condition on the loop variable holds. -/
def keepItems (name : String) (test : Scope → Except Fault Value) (s : Scope) :
    List Value → Except Fault (List Value)
  | [] => .ok []
  | v :: rest => do
    let kept ← test (s.inside [(name, v)])
    let more ← keepItems name test s rest
    return if kept.isTrue then v :: more else more

/-- A body for one item after the other, each in a frame of its own. -/
def eachItem (name : String) (body : Scope → Except Fault (Scope × String)) (length : Nat)
    (s : Scope) (index : Nat) (before : Value) : List Value → Except Fault String
  | [] => .ok ""
  | v :: rest => do
    let loop := loopRecord index length before (rest.headD .undefined)
    let (_, out) ← body (s.inside [(name, v), ("loop", loop)])
    return out ++ (← eachItem name body length s (index + 1) v rest)

/-- How an included template is rendered: `none` if there is none of that name. -/
abbrev Including := String → Option (Scope → Except Fault (Scope × String))

/-- The first template that a value names. A list names one after the other. -/
def firstNamed (including : Including) :
    List Value → Except FaultKind (Option (Scope → Except Fault (Scope × String)))
  | [] => .ok none
  | .text name :: rest =>
    match including name with
    | some template => .ok (some template)
    | none => firstNamed including rest
  | _ => .error .invalidOperation

def namesOf : Value → List Value
  | .list names => names
  | v => [v]

/-- A fault inside an included template as it shows outside. -/
def Fault.outside (f : Fault) (line : Nat) : Fault :=
  if f.kind = .stopped then f else ⟨.badInclude, line⟩

/-- An included template one level further in, and the scope that it leaves behind. -/
def included (template : Scope → Except Fault (Scope × String)) (line : Nat) (s : Scope) :
    Except Fault (Scope × String) :=
  let inner := { s with inclusions := s.inclusions + 1 }
  if inner.depth > Scope.maxDepth then .error ⟨.invalidOperation, line⟩
  else
    match template inner with
    | .ok (after, out) => .ok ({ after with inclusions := s.inclusions }, out)
    | .error f => .error (f.outside line)

mutual

def Node.run (including : Including) (s : Scope) : Node → Except Fault (Scope × String)
  | .data text => .ok (s, text)
  | .output e => do
    return (s, (← e.eval s).written)
  | .assign name e => do
    return (s.set name (← e.eval s), "")
  | .capture name body => do
    let (s, out) ← Node.runAll including s body
    return (s.set name (.text out), "")
  | .branch test yes no => do
    if (← test.eval s).isTrue then Node.runAll including s yes else Node.runAll including s no
  | .loop name source keep body otherwise => do
    let items ← orFault .invalidOperation source.line (← source.eval s).items
    if s.depth > Scope.maxDepth then .error ⟨.invalidOperation, source.line⟩
    else
      let items ←
        match keep with
        | some test => keepItems name test.eval s items
        | none => .ok items
      if items.isEmpty then Node.runAll including s otherwise
      else
        let out ←
          eachItem name (fun s => Node.runAll including s body) items.length s 0 .undefined items
        return (s, out)
  | .inclusion e optional => do
    let names := namesOf (← e.eval s)
    match ← atLine e.line (firstNamed including names) with
    | some template => included template e.line s
    | none =>
      if optional || names.isEmpty then return (s, "")
      else .error ⟨.templateNotFound, e.line⟩

def Node.runAll (including : Including) (s : Scope) : List Node → Except Fault (Scope × String)
  | [] => .ok (s, "")
  | node :: rest => do
    let (s, out) ← node.run including s
    let (s, more) ← Node.runAll including s rest
    return (s, out ++ more)

end

abbrev Library := List (String × List Node)

namespace Library

/-- The templates that can be included from inside `levels` further levels. The depth of a scope
grows with each level, so the last one is never entered. -/
def including (lib : Library) : Nat → Including
  | 0 => fun name =>
    (lib.lookup name).map fun _ => fun _ => .error ⟨.invalidOperation, 1⟩
  | levels + 1 => fun name =>
    (lib.lookup name).map fun body => fun s => Node.runAll (lib.including levels) s body

def render (lib : Library) (filters : List (String × TextFilter)) (body : List Node)
    (bindings : Frame) : Except Fault String :=
  (Node.runAll (lib.including Scope.maxDepth) { frames := [bindings], filters } body).map (·.2)

end Library

end Stencil.Bundled.Template
