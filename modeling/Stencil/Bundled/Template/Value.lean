import Stencil.Data
import Stencil.Text.Digits
import Stencil.Text.Quoted

/-!
# Stencil.Bundled.Template.Value

The values that template expressions work on.

* `Value`         — texts, numbers, lists, records; absent values of two kinds.
* `Value.ofData`  — the value of a variable.
* `Value.written` — how a value is written into the output.
* `Value.isTrue`  — which values count as true.
* `Value.attr`, `Value.item`, `Value.path` — parts of a value; a part that does not exist is
  `undefined`.
* `Fault`         — why a template cannot be compiled or rendered, and the line.
-/

namespace Stencil.Bundled.Template

inductive FaultKind where
  | malformed
  /-- A text whose escapes stand for no characters. -/
  | badEscape
  | undefined
  | unknownFilter
  | unknownTest
  | unknownFunction
  | unknownMethod
  | missingArgument
  | tooManyArguments
  | invalidOperation
  | templateNotFound
  | badInclude
  /-- A filter has stopped the program. -/
  | stopped
deriving DecidableEq, Repr

structure Fault where
  kind : FaultKind
  line : Nat
deriving DecidableEq, Repr

inductive Value where
  | undefined
  | none
  | boolean (b : Bool)
  | number (n : Int)
  | text (s : String)
  | list (items : List Value)
  | record (fields : List (String × Value))
deriving Inhabited

namespace Value

mutual

def ofData : Data → Value
  | .nothing => none
  | .boolean b => boolean b
  | .text s => text s
  | .list items => list (ofItems items)
  | .record fields => record (ofFields fields)

def ofItems : List Data → List Value
  | [] => []
  | v :: rest => ofData v :: ofItems rest

def ofFields : List (String × Data) → List (String × Value)
  | [] => []
  | (name, v) :: rest => (name, ofData v) :: ofFields rest

end

mutual

/-- Inside lists and records texts are quoted. -/
def inside : Value → String
  | undefined => "undefined"
  | none => "None"
  | boolean b => if b then "True" else "False"
  | number n => toString n
  | text s => Text.quoted s
  | list items => "[" ++ ", ".intercalate (insideAll items) ++ "]"
  | record fields => "\x7b" ++ ", ".intercalate (insideFields fields) ++ "\x7d"

def insideAll : List Value → List String
  | [] => []
  | v :: rest => v.inside :: insideAll rest

def insideFields : List (String × Value) → List String
  | [] => []
  | (name, v) :: rest => (Text.quoted name ++ ": " ++ v.inside) :: insideFields rest

end

/-- An undefined value leaves no trace in the output. -/
def written : Value → String
  | undefined => ""
  | text s => s
  | v => v.inside

def isTrue : Value → Bool
  | undefined | none => false
  | boolean b => b
  | number n => n != 0
  | text s => !s.isEmpty
  | list items => !items.isEmpty
  | record fields => !fields.isEmpty

mutual

/-- A boolean equals the number that it stands for. -/
def same : Value → Value → Bool
  | undefined, undefined => true
  | none, none => true
  | boolean a, boolean b => a == b
  | number a, number b => a == b
  | boolean a, number b => (if a then 1 else 0) == b
  | number a, boolean b => a == if b then 1 else 0
  | text a, text b => a == b
  | list as, list bs => sameAll as bs
  | record as, record bs => sameFields as bs
  | _, _ => false

def sameAll : List Value → List Value → Bool
  | [], [] => true
  | a :: as, b :: bs => a.same b && sameAll as bs
  | _, _ => false

def sameFields : List (String × Value) → List (String × Value) → Bool
  | [], [] => true
  | (x, a) :: as, (y, b) :: bs => x == y && a.same b && sameFields as bs
  | _, _ => false

end

/-- `none` only for a part of an undefined value. -/
def attr (v : Value) (name : String) : Option Value :=
  match v with
  | undefined => .none
  | record fields => some ((fields.lookup name).getD undefined)
  | _ => some undefined

/-- A position in a sequence; a boolean stands for 0 or 1. -/
def position? : Value → Option Int
  | number n => some n
  | boolean b => some (if b then 1 else 0)
  | _ => .none

/-- An element counted from 0, or from the end by a negative number. -/
def pick (items : List Value) (n : Int) : Value :=
  let i := if n < 0 then n + items.length else n
  if i < 0 then undefined else items[i.toNat]?.getD undefined

def characters (s : String) : List Value :=
  s.toList.map fun c => text (String.ofList [c])

/-- Lists and texts are indexed by position and records by name; `none` only for a part of an
undefined value. -/
def item (v index : Value) : Option Value :=
  match v, index with
  | undefined, _ => .none
  | record _, text name => v.attr name
  | list items, index => some ((index.position?.map (pick items)).getD undefined)
  | text s, index => some ((index.position?.map (pick (characters s))).getD undefined)
  | _, _ => some undefined

/-- A part of a part, and so on, by names and positions between dots. -/
def path (v : Value) (steps : String) : Option Value :=
  (Text.splitOn '.' steps.toList).foldlM (fun v step =>
    match Text.unsigned? step with
    | some n => v.item (number n)
    | .none => v.attr (String.ofList step)) v

/-- The values that a loop runs over; `none` for what cannot be looped over. -/
def items : Value → Option (List Value)
  | undefined | none => some []
  | text s => some (characters s)
  | list items => some items
  | record fields => some (fields.map fun f => text f.1)
  | _ => .none

def length : Value → Option Nat
  | text s => some s.length
  | list items => some items.length
  | record fields => some fields.length
  | _ => .none

/-- Numbers are negated as long as the result has 128 bits. -/
def negative? : Value → Option Value
  | number n =>
    let bound : Int := 170141183460469231731687303715884105728
    if -bound ≤ -n && -n < bound then some (number (-n)) else .none
  | _ => .none

end Value

end Stencil.Bundled.Template
