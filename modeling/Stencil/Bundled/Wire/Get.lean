/-!
# Stencil.Bundled.Wire.Get

Reading the protobuf wire format.

* `WireKind`    — how a field's value is laid out.
* `DecodeError` — why bytes cannot be read, and the fields that were being read, innermost first.
* `Get`         — takes bytes from the front of those that are left.
* `varint`, `key`, `text`, `integer` — the elements.
* `skip`        — a field that is not known.
* `delimited`   — a message inside a message.

Messages and groups may be nested a hundred levels deep. A reader inside of them gets the number of
levels that are left.
-/

namespace Stencil.Bundled.Wire

inductive WireKind where
  | varint | sixtyFourBit | lengthDelimited | startGroup | endGroup | thirtyTwoBit
deriving DecidableEq, Repr

namespace WireKind

def ofNumber? : Nat → Option WireKind
  | 0 => some varint
  | 1 => some sixtyFourBit
  | 2 => some lengthDelimited
  | 3 => some startGroup
  | 4 => some endGroup
  | 5 => some thirtyTwoBit
  | _ => none

def number : WireKind → Nat
  | varint => 0
  | sixtyFourBit => 1
  | lengthDelimited => 2
  | startGroup => 3
  | endGroup => 4
  | thirtyTwoBit => 5

def name : WireKind → String
  | varint => "Varint"
  | sixtyFourBit => "SixtyFourBit"
  | lengthDelimited => "LengthDelimited"
  | startGroup => "StartGroup"
  | endGroup => "EndGroup"
  | thirtyTwoBit => "ThirtyTwoBit"

end WireKind

inductive DecodeFault where
  | varint
  | key (n : Nat)
  | wireKind (n : Nat)
  | tag
  | unexpectedKind (actual expected : WireKind)
  | underflow
  | lengthExceeded
  | notText
  | endGroup
  | tooDeep
deriving DecidableEq, Repr

structure DecodeError where
  path : List String
  fault : DecodeFault
deriving DecidableEq, Repr

def DecodeFault.message : DecodeFault → String
  | varint => "invalid varint"
  | key n => s!"invalid key value: {n}"
  | wireKind n => s!"invalid wire type value: {n}"
  | tag => "invalid tag value: 0"
  | unexpectedKind actual expected =>
    s!"invalid wire type: {actual.name} (expected {expected.name})"
  | underflow => "buffer underflow"
  | lengthExceeded => "delimited length exceeded"
  | notText => "invalid string value: data is not UTF-8 encoded"
  | endGroup => "unexpected end group tag"
  | tooDeep => "recursion limit reached"

def DecodeError.message (e : DecodeError) : String :=
  "failed to decode Protobuf message: " ++ String.join (e.path.map (· ++ ": ")) ++ e.fault.message

abbrev Get := StateT (List UInt8) (Except DecodeError)

def fault {α : Type} (f : DecodeFault) : Get α :=
  throw ⟨[], f⟩

/-- Reads as part of a named field. -/
def within {α : Type} (field : String) (get : Get α) : Get α := fun bytes =>
  match get bytes with
  | .ok r => .ok r
  | .error e => .error { e with path := e.path ++ [field] }

/-- A number below 2^64 in groups of seven bits, the lowest first, from the byte at `index` on. -/
def varintFrom (index value : Nat) : List UInt8 → Except DecodeError (Nat × List UInt8)
  | [] => .error ⟨[], .varint⟩
  | b :: rest =>
    let value := value + (b.toNat % 128) * Nat.pow 128 index
    if b.toNat < 128 then
      if index = 9 && b.toNat > 1 then .error ⟨[], .varint⟩ else .ok (value, rest)
    else if index ≥ 9 then .error ⟨[], .varint⟩
    else varintFrom (index + 1) value rest

def varint : Get Nat := varintFrom 0 0

/-- Two to the power of 32. -/
def wordSize : Nat := 4294967296

/-- The tag of a field and the kind of its value. The kind is checked before the tag. -/
def key : Get (Nat × WireKind) := do
  let k ← varint
  if k ≥ wordSize then fault (.key k)
  else
    match WireKind.ofNumber? (k % 8) with
    | none => fault (.wireKind (k % 8))
    | some kind => if k / 8 = 0 then fault .tag else return (k / 8, kind)

def expectKind (actual expected : WireKind) : Get Unit := do
  if actual != expected then fault (.unexpectedKind actual expected)

def remaining : Get Nat :=
  return (← get).length

def take (n : Nat) : Get (List UInt8) := do
  let bytes ← get
  if n > bytes.length then fault .underflow
  else
    set (bytes.drop n)
    return bytes.take n

def text (kind : WireKind) : Get String := do
  expectKind kind .lengthDelimited
  let bytes ← take (← varint)
  match String.fromUTF8? ⟨bytes.toArray⟩ with
  | some s => return s
  | none => fault .notText

/-- The low 32 bits as a signed number. -/
def integer (kind : WireKind) : Get Int := do
  expectKind kind .varint
  let n : Nat := (← varint) % wordSize
  return if n < wordSize / 2 then Int.ofNat n else Int.ofNat n - Int.ofNat wordSize

def boolean (kind : WireKind) : Get Bool := do
  expectKind kind .varint
  return (← varint) != 0

/-- Fields until a group with this tag ends. A field takes at least one byte. -/
def untilGroupEnd (skipInner : Nat → WireKind → Get Unit) (tag : Nat) : Nat → Get Unit
  | 0 => fault .varint
  | steps + 1 => do
    let (inner, kind) ← key
    if kind = .endGroup then
      if inner != tag then fault .endGroup
    else
      skipInner inner kind
      untilGroupEnd skipInner tag steps

/-- Passes over a field with this many levels left. -/
def skip : Nat → Nat → WireKind → Get Unit
  | 0, _, _ => fault .tooDeep
  | levels + 1, tag, kind => do
    match kind with
    | .varint => discard varint
    | .thirtyTwoBit => discard (take 4)
    | .sixtyFourBit => discard (take 8)
    | .lengthDelimited => discard (take (← varint))
    | .startGroup => untilGroupEnd (skip levels) tag ((← remaining) + 1)
    | .endGroup => fault .endGroup

/-- Takes a field of a message that is being read. -/
abbrev FieldStep (σ : Type) := σ → Nat → WireKind → Get σ

/-- Fields until no more than `left` bytes remain. The last field may not reach beyond. -/
def fieldsUntil {σ : Type} (step : FieldStep σ) (left : Nat) : Nat → σ → Get σ
  | 0, s => return s
  | steps + 1, s => do
    let n ← remaining
    if n = left then return s
    else if n < left then fault .lengthExceeded
    else
      let (tag, kind) ← key
      fieldsUntil step left steps (← step s tag kind)

/-- A message with its length in front. `inner` reads its fields; it is missing when no level is
left. -/
def delimited {σ : Type} (inner : Option (FieldStep σ)) (kind : WireKind) (start : σ) : Get σ := do
  expectKind kind .lengthDelimited
  match inner with
  | none => fault .tooDeep
  | some step =>
    let length ← varint
    let n ← remaining
    if length > n then fault .underflow
    else fieldsUntil step (n - length) (n + 1) start

def maxLevels : Nat := 100

/-- The outermost message: all the bytes. -/
def whole {σ : Type} (step : Nat → FieldStep σ) (start : σ) (bytes : ByteArray) :
    Except DecodeError σ :=
  (fieldsUntil (step maxLevels) 0 (bytes.size + 1) start bytes.toList).map (·.1)

end Stencil.Bundled.Wire
