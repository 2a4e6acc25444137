import Stencil.Text.CaseTable
import Stencil.Text.Range

/-!
# Stencil.Text.Letter

Upper and lower case of any character.

* `lowerChar`, `upperChar` — the full case mapping of one character.
* `lower`, `upper`         — of a text; a capital sigma that ends a word becomes the final form.
* `isUpper`, `isLower`     — a character that has a counterpart in the other case and is its own
  in this one.
* `isCapital`              — the property Uppercase.
-/

namespace Stencil.Text

def CaseRun.covers (r : CaseRun) (n : Nat) : Bool :=
  r.first ≤ n && n ≤ r.last && (n - r.first) % r.step == 0

def shifted (runs : List CaseRun) (c : Char) : Char :=
  match runs.find? (·.covers c.toNat) with
  | some run => Char.ofNat (c.toNat + run.shift).toNat
  | none => c

/-- Of all characters only the capital I with a dot gets two. -/
def lowerChar (c : Char) : List Char :=
  if c.toNat < 128 then [c.toLower]
  else if c = '\u0130' then ['i', '\u0307']
  else [shifted lowerRuns c]

def upperChar (c : Char) : List Char :=
  if c.toNat < 128 then [c.toUpper]
  else
    match upperExpansions.lookup c.toNat with
    | some codes => codes.map Char.ofNat
    | none => [shifted upperRuns c]

def isUpper (c : Char) : Bool :=
  upperChar c == [c] && lowerChar c != [c]

def isLower (c : Char) : Bool :=
  lowerChar c == [c] && upperChar c != [c]

/-- Unlike `isUpper` this holds of capitals that have no small form, and of no digraph that has both
a capital and a small form. -/
def isCapital (c : Char) : Bool :=
  if c.toNat < 128 then c.isUpper
  else inRanges loneCapitals c || (lowerChar c != [c] && !inRanges titleRanges c)

def isCaseIgnorable (c : Char) : Bool :=
  inRanges ignorableRanges c

def isCased (c : Char) : Bool :=
  inRanges casedRanges c

/-- The first character that is not ignorable is a letter with case. -/
def meetsCased (cs : List Char) : Bool :=
  ((cs.dropWhile isCaseIgnorable).head?).any isCased

/-- Lower case of a text whose characters so far are `before`, nearest first. A sigma is final when
a letter stands before it and none after it. -/
def lowerAfter (before : List Char) : List Char → List Char
  | [] => []
  | c :: rest =>
    let here :=
      if c = 'Σ' then
        if meetsCased before && !meetsCased rest then ['ς'] else ['σ']
      else lowerChar c
    here ++ lowerAfter (c :: before) rest

def lower (s : String) : String :=
  String.ofList (lowerAfter [] s.toList)

def upper (s : String) : String :=
  String.ofList (s.toList.flatMap upperChar)

end Stencil.Text
