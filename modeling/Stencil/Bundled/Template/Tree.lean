import Stencil.Bundled.Template.Token

/-!
# Stencil.Bundled.Template.Tree

A template as a tree, and how it is read from its tokens.

* `Expr`, `Args`, `Links` — expressions; names and literals carry the line on which they stand.
* `Node`      — text, output and statements.
* `Reader`    — takes tokens from the front; a fault is told with the line of the last one taken.
* `compile`   — the tree of a source, or the fault of the first token that does not fit.

From loosest to tightest an expression binds as: choice by `if`, `or`, `and`, `not`, comparison,
joining by `~`, and last a minus sign, parts and calls, filters and tests. Readers take a number of
steps, of which `compile` provides more than the tokens can use, and the levels of nesting that are
left to them.
-/

namespace Stencil.Bundled.Template

mutual

inductive Expr where
  | const (v : Value) (line : Nat)
  | var (name : String) (line : Nat)
  | attr (e : Expr) (name : String)
  | item (e index : Expr)
  | negative (e : Expr) (line : Nat)
  | not (e : Expr) (line : Nat)
  | and (a b : Expr)
  | or (a b : Expr)
  | compare (e : Expr) (links : Links)
  | join (a b : Expr)
  | choice (test yes : Expr)
  | choiceElse (test yes no : Expr)
  | filter (name : String) (e : Expr) (args : Args)
  | test (name : String) (e : Expr) (args : Args)
  | call (name : String) (args : Args) (line : Nat)
  | method (e : Expr) (name : String) (args : Args)
  | apply (e : Expr) (args : Args)

/-- A chain of comparisons, each with the value before it. -/
inductive Links where
  | done
  | equal (e : Expr) (rest : Links)
  | differs (e : Expr) (rest : Links)

inductive Args where
  | done
  | value (e : Expr) (rest : Args)
  | named (name : String) (e : Expr) (rest : Args)

end

inductive Node where
  | data (s : String)
  | output (e : Expr)
  | assign (name : String) (e : Expr)
  | capture (name : String) (body : List Node)
  | branch (test : Expr) (yes no : List Node)
  | loop (name : String) (source : Expr) (keep : Option Expr) (body otherwise : List Node)
  | inclusion (e : Expr) (optional : Bool)

/-- The tokens that are left, and the line of the last one taken. -/
structure Cursor where
  rest : List Lexeme
  line : Nat := 1

abbrev Reader := StateT Cursor (Except Fault)

namespace Reader

/-- A fault behind the tokens taken so far. -/
def refused {α : Type} : Reader α := do
  throw ⟨.malformed, (← get).line⟩

/-- The next token, which must be one. -/
def current : Reader Token := do
  match (← get).rest with
  | [] => return .finish
  | ⟨.broken, line⟩ :: _ => throw ⟨.malformed, line⟩
  | ⟨.illEscaped, _⟩ :: _ => throw ⟨.badEscape, (← get).line⟩
  | ⟨token, _⟩ :: _ => return token

/-- The line of the next token. -/
def currentLine : Reader Nat := do
  let c ← get
  return (c.rest.head?.map (·.line)).getD c.line

def advance : Reader Unit :=
  modify fun c => ⟨c.rest.tail, (c.rest.head?.map (·.line)).getD c.line⟩

/-- The fault of a token that does not fit. -/
def misplaced {α : Type} : Reader α := do
  let _ ← current
  advance
  refused

/-- Whether the next token is the given one, which is then taken. -/
def next? (t : Token) : Reader Bool := do
  if (← current) = t then
    advance
    return true
  else return false

def expect (t : Token) : Reader Unit := do
  unless ← next? t do misplaced

def anyName : Reader String := do
  match ← current with
  | .name s =>
    advance
    return s
  | _ => misplaced

end Reader

open Reader

/-- Names that stand for a value of their own. -/
def constant? : String → Option Value
  | "true" | "True" => some (.boolean true)
  | "false" | "False" => some (.boolean false)
  | "none" | "None" => some .none
  | _ => none

/-- A name that can be given a value. -/
def targetName : Reader String := do
  let name ← anyName
  if (constant? name).isSome || name == "loop" || name == "self" then refused
  else return name

/-- Names joined by dots. -/
def dottedTail : Nat → String → Reader String
  | 0, _ => refused
  | steps + 1, name => do
    if ← next? (.sign ".") then dottedTail steps (name ++ "." ++ (← anyName))
    else return name

/-- A literal goes on with the literals behind it. -/
def textTail : Nat → String → Reader String
  | 0, _ => refused
  | steps + 1, s => do
    match ← current with
    | .text more =>
      advance
      textTail steps (s ++ more)
    | _ => return s

/-- Tokens with which the argument of a test begins if it stands without brackets. -/
def startsArgument : Token → Bool
  | .name s => !(["and", "or", "else", "is"].contains s)
  | .text _ | .number _ => true
  | .sign s => ["+", "-", "[", "\x7b"].contains s
  | _ => false

mutual

/-- An expression one level further in. -/
def choiceExpr : Nat → Nat → Reader Expr
  | steps + 1, levels + 1 => openChoice steps levels
  | _, _ => refused

def openChoice : Nat → Nat → Reader Expr
  | 0, _ => refused
  | steps + 1, levels => do
    let e ← orExpr steps levels
    choiceTail steps levels e

def choiceTail : Nat → Nat → Expr → Reader Expr
  | 0, _, _ => refused
  | steps + 1, levels, e => do
    if ← next? (.name "if") then
      let test ← orExpr steps levels
      if ← next? (.name "else") then
        let other ← openChoice steps levels
        choiceTail steps levels (.choiceElse test e other)
      else choiceTail steps levels (.choice test e)
    else return e

def orExpr : Nat → Nat → Reader Expr
  | 0, _ => refused
  | steps + 1, levels => do
    let e ← andExpr steps levels
    orTail steps levels e

def orTail : Nat → Nat → Expr → Reader Expr
  | 0, _, _ => refused
  | steps + 1, levels, e => do
    if ← next? (.name "or") then
      let other ← andExpr steps levels
      orTail steps levels (.or e other)
    else return e

def andExpr : Nat → Nat → Reader Expr
  | 0, _ => refused
  | steps + 1, levels => do
    let e ← notExpr steps levels
    andTail steps levels e

def andTail : Nat → Nat → Expr → Reader Expr
  | 0, _, _ => refused
  | steps + 1, levels, e => do
    if ← next? (.name "and") then
      let other ← notExpr steps levels
      andTail steps levels (.and e other)
    else return e

def notExpr : Nat → Nat → Reader Expr
  | 0, _ => refused
  | steps + 1, levels => do
    let line ← currentLine
    if ← next? (.name "not") then
      let e ← notExpr steps levels
      return .not e line
    else
      let e ← joinExpr steps levels
      match ← links steps levels with
      | .done => return e
      | links => return .compare e links

def links : Nat → Nat → Reader Links
  | 0, _ => refused
  | steps + 1, levels => do
    if ← next? (.sign "==") then
      let other ← joinExpr steps levels
      return .equal other (← links steps levels)
    else if ← next? (.sign "!=") then
      let other ← joinExpr steps levels
      return .differs other (← links steps levels)
    else return .done

def joinExpr : Nat → Nat → Reader Expr
  | 0, _ => refused
  | steps + 1, levels => do
    let e ← filteredExpr steps levels
    joinTail steps levels e

def joinTail : Nat → Nat → Expr → Reader Expr
  | 0, _, _ => refused
  | steps + 1, levels, e => do
    if ← next? (.sign "~") then
      let other ← filteredExpr steps levels
      joinTail steps levels (.join e other)
    else return e

/-- A value with its parts, then its filters and tests. -/
def filteredExpr : Nat → Nat → Reader Expr
  | 0, _ => refused
  | steps + 1, levels => do
    let e ← partExpr steps levels
    filterTail steps levels e

def partExpr : Nat → Nat → Reader Expr
  | 0, _ => refused
  | steps + 1, levels => do
    let line ← currentLine
    let e ← signedExpr steps levels
    partTail steps levels line e

/-- Minus signs bind tighter than parts. -/
def signedExpr : Nat → Nat → Reader Expr
  | 0, _ => refused
  | steps + 1, levels => do
    let line ← currentLine
    if ← next? (.sign "-") then
      let e ← signedExpr steps levels
      return .negative e line
    else primary steps levels

def primary : Nat → Nat → Reader Expr
  | steps + 1, levels + 1 => do
    let line ← currentLine
    match ← current with
    | .text s =>
      advance
      return .const (.text (← textTail steps s)) line
    | .number n =>
      advance
      return .const (.number n) line
    | .name s =>
      advance
      match constant? s with
      | some v => return .const v line
      | none => return .var s line
    | .sign "(" =>
      advance
      let e ← choiceExpr steps levels
      expect (.sign ")")
      return e
    | _ => misplaced
  | _, _ => refused

/-- Parts and calls of an expression that begins on the given line. -/
def partTail : Nat → Nat → Nat → Expr → Reader Expr
  | 0, _, _, _ => refused
  | steps + 1, levels, line, e => do
    if ← next? (.sign ".") then
      let name ← anyName
      partTail steps levels line (.attr e name)
    else if ← next? (.sign "[") then
      let index ← choiceExpr steps levels
      expect (.sign "]")
      partTail steps levels line (.item e index)
    else if ← next? (.sign "(") then
      let args ← arguments steps levels false
      match e with
      | .var name _ => partTail steps levels line (.call name args line)
      | .attr e name => partTail steps levels line (.method e name args)
      | e => partTail steps levels line (.apply e args)
    else return e

def filterTail : Nat → Nat → Expr → Reader Expr
  | 0, _, _ => refused
  | steps + 1, levels, e => do
    if ← next? (.sign "|") then
      let name ← dottedTail steps (← anyName)
      let args ← if ← next? (.sign "(") then arguments steps levels false else pure .done
      filterTail steps levels (.filter name e args)
    else if ← next? (.name "is") then
      let line ← currentLine
      let negated ← next? (.name "not")
      let name ← dottedTail steps (← anyName)
      let args ← testArguments steps levels
      let test := Expr.test name e args
      filterTail steps levels (if negated then .not test line else test)
    else return e

/-- The arguments of a test: none, some in brackets, or a single one without. -/
def testArguments : Nat → Nat → Reader Args
  | 0, _ => refused
  | steps + 1, levels => do
    if ← next? (.sign "(") then arguments steps levels false
    else if startsArgument (← current) then return .value (← partExpr steps levels) .done
    else return .done

/-- Arguments from behind the opening bracket or a comma. A comma may follow the last one, and after
a named argument all are named. -/
def arguments : Nat → Nat → Bool → Reader Args
  | 0, _, _ => refused
  | steps + 1, levels, named => do
    if ← next? (.sign ")") then return .done
    else
      let e ← choiceExpr steps levels
      match e, named with
      | .var name _, _ =>
        if ← next? (.sign "=") then
          let value ← orExpr steps levels
          return .named name value (← moreArguments steps levels true)
        else if named then refused
        else return .value e (← moreArguments steps levels false)
      | e, false => return .value e (← moreArguments steps levels false)
      | _, true => refused

def moreArguments : Nat → Nat → Bool → Reader Args
  | 0, _, _ => refused
  | steps + 1, levels, named => do
    if ← next? (.sign ",") then arguments steps levels named
    else
      expect (.sign ")")
      return .done

end

mutual

/-- Nodes up to a tag that begins with one of the given names, which is taken and told. Without
names, up to the end. -/
def nodes : Nat → Nat → List String → Reader (List Node × String)
  | 0, _, _ => refused
  | steps + 1, levels, ends => do
    match ← current with
    | .data s =>
      advance
      let (more, last) ← nodes steps levels ends
      return (.data s :: more, last)
    | .valueStart =>
      advance
      let e ← choiceExpr steps levels
      expect .valueEnd
      let (more, last) ← nodes steps levels ends
      return (.output e :: more, last)
    | .tagStart =>
      advance
      let token ← current
      match ends.find? (Token.name · = token) with
      | some keyword =>
        advance
        return ([], keyword)
      | none =>
        let node ← statement steps levels
        expect .tagEnd
        let (more, last) ← nodes steps levels ends
        return (node :: more, last)
    | .finish => if ends.isEmpty then return ([], "") else misplaced
    | _ => misplaced

/-- A statement from its keyword up to the end of its last tag, one level further in. -/
def statement : Nat → Nat → Reader Node
  | steps + 1, levels + 1 => do
    match ← anyName with
    | "if" => branch steps levels
    | "for" => loop steps levels
    | "set" =>
      let name ← targetName
      if ← next? (.sign "=") then return .assign name (← choiceExpr steps levels)
      else
        expect .tagEnd
        let (body, _) ← nodes steps levels ["endset"]
        return .capture name body
    | "include" =>
      let e ← choiceExpr steps levels
      let optional ← next? (.name "ignore")
      if optional then expect (.name "missing")
      return .inclusion e optional
    | _ => refused
  | _, _ => refused

/-- From behind `if` or `elif`. -/
def branch : Nat → Nat → Reader Node
  | 0, _ => refused
  | steps + 1, levels => do
    let test ← orExpr steps levels
    expect .tagEnd
    let (yes, last) ← nodes steps levels ["elif", "else", "endif"]
    match last with
    | "elif" => return .branch test yes [← branch steps levels]
    | "else" =>
      expect .tagEnd
      let (no, _) ← nodes steps levels ["endif"]
      return .branch test yes no
    | _ => return .branch test yes []

def loop : Nat → Nat → Reader Node
  | 0, _ => refused
  | steps + 1, levels => do
    let name ← targetName
    expect (.name "in")
    let source ← orExpr steps levels
    let keep ← if ← next? (.name "if") then some <$> choiceExpr steps levels else pure none
    expect .tagEnd
    let (body, last) ← nodes steps levels ["else", "endfor"]
    if last == "else" then
      expect .tagEnd
      let (otherwise, _) ← nodes steps levels ["endfor"]
      return .loop name source keep body otherwise
    else return .loop name source keep body []

end

/-- Statements, bracketed expressions and the like are nested to a limited depth. -/
def maxLevels : Nat := 150

/-- Fewer than twenty readers call each other on one token. -/
def compile (source : String) : Except Fault (List Node) :=
  let ts := tokens source
  ((nodes (20 * ts.length + 20) maxLevels []).run ⟨ts, 1⟩).map (·.1.1)

end Stencil.Bundled.Template
