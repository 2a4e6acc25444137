import Stencil.Bundled.Toml.Document
import Stencil.Text.Decimal
import Stencil.Toolkit

/-!
# Stencil.Bundled.Toml.Reader

Documents as a reader of settings files hands them over: the entries in the order of their keys, and
values other than texts and booleans by their names.
-/

namespace Stencil.Bundled.Toml

/-- Whether an integer is at least `-2^low` and below `2^high`. -/
def isBetweenPowers (low high : Nat) (i : Int) : Bool :=
  -(Nat.pow 2 low : Int) ≤ i && i < (Nat.pow 2 high : Int)

/-- Integers beyond 64 bits are named with their width. -/
def integerText (i : Int) : Option String :=
  if isBetweenPowers 63 64 i then some s!"integer `{i}`"
  else if isBetweenPowers 127 127 i then some s!"integer `{i}` as i128"
  else if 0 ≤ i && isBetweenPowers 0 128 i then some s!"integer `{i}` as u128"
  else none

/-- All that is told of a document that cannot be read. -/
def faultText : String := "TOML parse error"

def orBroken : Option String → Stencil.Toml.Value
  | some kind => .other kind
  | none => .broken faultText

def Value.seen : Value → Stencil.Toml.Value
  | .text s => .text s
  | .integer i => orBroken (i.bind integerText)
  | .float x => orBroken (x.map fun x => s!"floating point `{Text.floatText x}`")
  | .boolean b => .boolean b
  | .array _ | .tables _ => .other "sequence"
  | .moment | .table _ _ => .other "map"

def Entries.insert (entry : String × Value) : Entries → Entries
  | [] => [entry]
  | first :: rest =>
    if entry.1 ≤ first.1 then entry :: first :: rest else first :: Entries.insert entry rest

def Entries.sorted (es : Entries) : Entries :=
  es.foldr Entries.insert []

/-- No place is told. -/
def reader : Stencil.Toml.Reader where
  entries source :=
    match document? source with
    | none => .error faultText
    | some es => .ok (es.sorted.map fun (key, v) => (key, v.seen))
  placed _ _ message := message

end Stencil.Bundled.Toml
