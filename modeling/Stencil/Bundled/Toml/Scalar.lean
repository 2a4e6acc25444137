import Stencil.Text.Digits
import Stencil.Bundled.Toml.Value

/-!
# Stencil.Bundled.Toml.Scalar

Scalars written without quotes: booleans, integers, floating point numbers and moments in time.

* `isGrouped` — every underscore stands between two digits.
* `number?`   — an integer or a floating point number.
* `isMoment`  — a date, a time, or both.
* `ofWord?`   — the scalar that a word stands for.

A number is judged in two steps. Its form is settled here: a prefix, a point or an exponent, the
underscores, no needless zero in front. Whether it has a value is a question of its own: an integer
may lack digits, and what is too large for a float has none.
-/

namespace Stencil.Bundled.Toml

/-- Every underscore stands between two digits. -/
def isGrouped (isDigit : Char → Bool) (cs : List Char) : Bool :=
  let pieces := Text.splitOn '_' cs
  pieces.dropLast.all (·.getLast?.any isDigit) && pieces.tail.all (·.head?.any isDigit)

def ungrouped (cs : List Char) : List Char :=
  cs.filter (· != '_')

def negated (negative : Bool) (n : Nat) : Int :=
  if negative then -(n : Int) else n

/-- A zero with other digits behind it. -/
def hasNeedlessZero (cs : List Char) : Bool :=
  cs.head? == some '0' && cs.length > 1

/-- An integer from behind the prefix that tells its base. -/
def based? (base : Nat) (ds : List Char) : Option Value :=
  if (ungrouped ds).all (Text.isDigitOf base) && isGrouped (Text.isDigitOf 16) ds then
    some (.integer ((Text.ofDigits? base (ungrouped ds)).map Int.ofNat))
  else none

/-- Digits, and from the first underscore on anything that is grouped like digits. -/
def decimal? (negative : Bool) (cs : List Char) : Option Value :=
  let (front, rest) := cs.span Char.isDigit
  if !front.isEmpty && (rest.isEmpty || rest.head? == some '_') && !hasNeedlessZero cs &&
      isGrouped (Text.isDigitOf 16) cs then
    some (.integer ((Text.ofDigits? 10 (ungrouped cs)).map (negated negative)))
  else none

/-- `digits * 10^exponent`. What is too large for any float is infinite, what is too small zero. -/
def scaled (digits : Nat) (exponent : Int) : Float :=
  let size := (Nat.toDigits 10 digits).length + exponent
  if digits = 0 || size < -400 then 0.0
  else if size > 400 then 1.0 / 0.0
  else Float.ofScientific digits (exponent < 0) exponent.natAbs

def signed : List Char → Bool × List Char
  | '+' :: rest => (false, rest)
  | '-' :: rest => (true, rest)
  | cs => (false, cs)

/-- Digits with a fraction, an exponent or both. -/
def magnitude? (cs : List Char) : Option Float :=
  let (mantissa, power) := (ungrouped cs).span fun c => c != 'e' && c != 'E'
  let (front, fraction) := mantissa.span (· != '.')
  let exponent? : Option Int :=
    match power with
    | [] => some 0
    | _ :: ds =>
      let (negative, ds) := signed ds
      (Text.ofDigits? 10 ds).map (negated negative)
  let fraction? : Option Nat :=
    match fraction with
    | [] => some 0
    | _ :: ds => Text.ofDigits? 10 ds
  let places := fraction.length - 1
  match Text.ofDigits? 10 front, fraction?, exponent? with
  | some n, some f, some e =>
    if hasNeedlessZero front || !isGrouped Char.isDigit cs then none
    else some (scaled (n * Nat.pow 10 places + f) (e - places))
  | _, _, _ => none

/-- A float beyond all others has no value, unless it is written as infinite. -/
def float? (negative : Bool) (cs : List Char) : Option Value :=
  let turn (x : Float) : Float := if negative then -x else x
  if cs == "inf".toList then some (.float (turn (1.0 / 0.0)))
  else if cs == "nan".toList then some (.float (turn (0.0 / 0.0)))
  else (magnitude? cs).map fun x => .float (if x.isInf then none else some (turn x))

/-- Only decimal numbers take a sign. -/
def number? : List Char → Option Value
  | '0' :: 'x' :: ds => based? 16 ds
  | '0' :: 'o' :: ds => based? 8 ds
  | '0' :: 'b' :: ds => based? 2 ds
  | cs =>
    let (negative, cs) := signed cs
    let isFloat := cs.any fun c => c == '.' || c == 'e' || c == 'E'
    if isFloat || cs == "inf".toList || cs == "nan".toList then float? negative cs
    else decimal? negative cs

/-- Two digits whose value is in a range, and the rest. -/
def twoDigits? (low high : Nat) : List Char → Option (Nat × List Char)
  | a :: b :: rest => do
    let n ← Text.ofDigits? 10 [a, b]
    if low ≤ n && n ≤ high then some (n, rest) else none
  | _ => none

def daysIn (year month : Nat) : Nat :=
  if month = 2 then
    if year % 4 = 0 && (year % 100 != 0 || year % 400 = 0) then 29 else 28
  else if month = 4 || month = 6 || month = 9 || month = 11 then 30
  else 31

/-- The text after a leading date. -/
def afterDate? : List Char → Option (List Char)
  | a :: b :: c :: d :: '-' :: rest => do
    let year ← Text.ofDigits? 10 [a, b, c, d]
    let (month, rest) ← twoDigits? 1 12 rest
    match rest with
    | '-' :: rest => (twoDigits? 1 (daysIn year month) rest).map (·.2)
    | _ => none
  | _ => none

/-- The text after a leading time of day. Seconds may be left out; with them goes their fraction. -/
def afterTime? (cs : List Char) : Option (List Char) := do
  let (_, cs) ← twoDigits? 0 23 cs
  let cs ← if cs.head? == some ':' then some cs.tail else none
  let (_, cs) ← twoDigits? 0 59 cs
  match cs with
  | ':' :: cs =>
    let (_, cs) ← twoDigits? 0 60 cs
    match cs with
    | '.' :: d :: rest => if d.isDigit then some (rest.dropWhile Char.isDigit) else none
    | '.' :: [] => none
    | cs => some cs
  | cs => some cs

def isOffset : List Char → Bool
  | [] => true
  | ['Z'] | ['z'] => true
  | sign :: rest =>
    (sign == '+' || sign == '-') &&
      match twoDigits? 0 23 rest with
      | some (_, ':' :: rest) => (twoDigits? 0 59 rest).any (·.2.isEmpty)
      | _ => false

/-- A date, a time of day, or a date and a time with or without an offset. -/
def isMoment (cs : List Char) : Bool :=
  match afterDate? cs with
  | some [] => true
  | some (mark :: time) =>
    (mark == 'T' || mark == 't' || mark == ' ') && (afterTime? time).any isOffset
  | none => afterTime? cs == some []

def ofWord? (cs : List Char) : Option Value :=
  if cs == "true".toList then some (.boolean true)
  else if cs == "false".toList then some (.boolean false)
  else if isMoment cs then some .moment
  else number? cs

end Stencil.Bundled.Toml
