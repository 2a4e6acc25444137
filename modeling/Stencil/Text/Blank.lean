/-!
# Stencil.Text.Blank

Blank characters and trimming.

* `isBlank`  — the Unicode property White_Space.
* `trim`     — a text without the blanks at its two ends.
* `trimLeft`, `trimRight` — the same at one end.
-/

namespace Stencil.Text

/-- The Unicode property White_Space: controls 9 to 13, the spaces, and the two separators. -/
def isBlank (c : Char) : Bool :=
  let n := c.toNat
  (9 ≤ n && n ≤ 13) || n == 0x20 || n == 0x85 || n == 0xA0 || n == 0x1680 ||
    (0x2000 ≤ n && n ≤ 0x200A) || n == 0x2028 || n == 0x2029 || n == 0x202F ||
    n == 0x205F || n == 0x3000

def trimLeft (cs : List Char) : List Char :=
  cs.dropWhile isBlank

def trimRight (cs : List Char) : List Char :=
  (cs.reverse.dropWhile isBlank).reverse

/-- A text without the blanks at its two ends. -/
def trim (s : String) : String :=
  String.ofList (trimRight (trimLeft s.toList))

end Stencil.Text
