import Stencil.Text.Pieces

/-!
# Stencil.Text.Digits

Numbers written with digits.

* `digit?`    — the value of a digit, of any base up to 16.
* `ofDigits?` — the number that digits write in a base.
* `unsigned?` — a decimal number, where a plus sign may stand in front.
-/

namespace Stencil.Text

def digit? (c : Char) : Option Nat :=
  if c.isDigit then some (c.toNat - '0'.toNat)
  else if 'a' ≤ c && c ≤ 'f' then some (c.toNat - 'a'.toNat + 10)
  else if 'A' ≤ c && c ≤ 'F' then some (c.toNat - 'A'.toNat + 10)
  else none

def isDigitOf (base : Nat) (c : Char) : Bool :=
  (digit? c).any (· < base)

/-- At least one digit, and nothing but digits of the base. -/
def ofDigits? (base : Nat) (ds : List Char) : Option Nat :=
  if !ds.isEmpty && ds.all (isDigitOf base) then
    some (ds.foldl (fun n d => n * base + (digit? d).getD 0) 0)
  else none

def unsigned? (cs : List Char) : Option Nat :=
  ofDigits? 10 (dropMark ['+'] cs)

end Stencil.Text
