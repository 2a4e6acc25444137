/-!
# Stencil.Text.Decimal

The shortest decimal that reads back as a given binary64 value, written without an exponent.

* `Binary.ofBits` — a finite value as `m * 2^q`.
* `Binary.holds`  — the reals that round to a value.
* `Binary.shortest` — the fewest digits among them, the nearest of two, the larger of a tie.
* `floatText`     — the digits in positional form, with a point in every finite value.
-/

namespace Stencil.Text

/-- `m * 2^q`. Below a power of two the gap is half as wide as above. -/
structure Binary where
  m : Nat
  q : Int
  narrowBelow : Bool

/-- The magnitude; the sign bit is not looked at. -/
def Binary.ofBits (bits : UInt64) : Binary :=
  let e := ((bits >>> 52) &&& 0x7FF).toNat
  let f := (bits &&& 0xFFFFFFFFFFFFF).toNat
  if e == 0 then ⟨f, -1074, false⟩ else ⟨Nat.pow 2 52 + f, (e : Int) - 1075, f == 0 && e > 1⟩

/-- Order of `a * 10^i` and `n * 2^j`. -/
def compareScaled (a : Nat) (i : Int) (n : Nat) (j : Int) : Ordering :=
  compare (a * Nat.pow 10 i.toNat * Nat.pow 2 (-j).toNat)
    (n * Nat.pow 2 j.toNat * Nat.pow 10 (-i).toNat)

/-- `digits * 10^i` lies halfway to a neighbour or nearer; the ends count when `m` is even. -/
def Binary.holds (x : Binary) (digits : Nat) (i : Int) : Bool :=
  let low := compareScaled digits i (4 * x.m - if x.narrowBelow then 1 else 2) (x.q - 2)
  let high := compareScaled digits i (4 * x.m + 2) (x.q - 2)
  let ends := x.m % 2 == 0
  (low == .gt || (ends && low == .eq)) && (high == .lt || (ends && high == .eq))

/-- The number of `10^i` that fit. -/
def Binary.count (x : Binary) (i : Int) : Nat :=
  (x.m * Nat.pow 2 x.q.toNat * Nat.pow 10 (-i).toNat) /
    (Nat.pow 2 (-x.q).toNat * Nat.pow 10 i.toNat)

/-- The better neighbour on the grid of `10^i`, if one of the two is held. -/
def Binary.onGrid? (x : Binary) (i : Int) : Option Nat :=
  let below := x.count i
  match x.holds below i, x.holds (below + 1) i with
  | true, true =>
    -- twice the value against the sum of the two
    if compareScaled (2 * below + 1) i (2 * x.m) x.q == .gt then some below else some (below + 1)
  | true, false => some below
  | false, true => some (below + 1)
  | false, false => none

/-- The first of the grids `10^i`, `10^(i-1)`, … with a held neighbour. -/
def Binary.firstGrid (x : Binary) : Nat → Int → Nat × Int
  | 0, i => (x.count i, i)
  | tries + 1, i =>
    match x.onGrid? i with
    | some digits => (digits, i)
    | none => x.firstGrid tries (i - 1)

/-- Digits and exponent of a value other than zero. No binary64 value reaches 10^310. -/
def Binary.shortest (x : Binary) : Nat × Int :=
  x.firstGrid 640 310

/-- `digits * 10^i` with a point and at least one digit on each side of it. -/
def positional (digits : Nat) (i : Int) : String :=
  let ds := Nat.toDigits 10 (digits * Nat.pow 10 i.toNat)
  let places := (-i).toNat
  let padded := List.replicate (places + 1 - ds.length) '0' ++ ds
  let whole := padded.take (padded.length - places)
  let fraction := padded.drop (padded.length - places)
  String.ofList (whole ++ '.' :: (if fraction.isEmpty then ['0'] else fraction))

def floatText (x : Float) : String :=
  let bits := x.toBits
  let sign := if bits >>> 63 == 1 then "-" else ""
  if x.isNaN then "NaN"
  else if x.isInf then sign ++ "inf"
  else
    let b := Binary.ofBits bits
    if b.m = 0 then sign ++ "0.0"
    else sign ++ positional b.shortest.1 b.shortest.2

end Stencil.Text
