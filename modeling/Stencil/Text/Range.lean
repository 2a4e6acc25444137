/-!
# Stencil.Text.Range

Sets of characters written as lists of code point ranges, both ends included.
-/

namespace Stencil.Text

def inRanges (ranges : List (Nat × Nat)) (c : Char) : Bool :=
  ranges.any fun (first, last) => first ≤ c.toNat && c.toNat ≤ last

end Stencil.Text
