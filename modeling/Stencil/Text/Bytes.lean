/-!
# Stencil.Text.Bytes

Texts by the bytes of their UTF-8 form.

* `before?`, `behind?` — a text up to an offset in bytes, and from it on.
* `lowerByte`   — the byte of a capital ASCII letter becomes that of the small one.
* `sameButCase` — whether two texts have the same bytes but for the case of ASCII letters.
-/

namespace Stencil.Text

/-- `none` if the offset lies inside a character or behind the end. -/
def before? (s : String) (offset : String.Pos.Raw) : Option String :=
  if h : offset.IsValid s then some (s.sliceTo ⟨offset, h⟩).copy else none

/-- `none` if the offset lies inside a character or behind the end. -/
def behind? (s : String) (offset : String.Pos.Raw) : Option String :=
  if h : offset.IsValid s then some (s.sliceFrom ⟨offset, h⟩).copy else none

def lowerByte (b : UInt8) : UInt8 :=
  if 0x41 ≤ b ∧ b ≤ 0x5A then b + 0x20 else b

def sameButCase (s t : String) : Bool :=
  s.toUTF8.data.map lowerByte == t.toUTF8.data.map lowerByte

end Stencil.Text
