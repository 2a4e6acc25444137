import Stencil.Request
import Stencil.Bundled.Wire.Get

/-!
# Stencil.Bundled.Wire.Encode

Responses as bytes. Fields are written by ascending number; what is set is written even when it is
empty or zero.
-/

namespace Stencil.Bundled.Wire

/-- Seven bits a byte, the lowest first, with the top bit on all bytes but the last. -/
def putVarint (n : Nat) : List UInt8 :=
  if n < 128 then [UInt8.ofNat n] else UInt8.ofNat (n % 128 + 128) :: putVarint (n / 128)
termination_by n

def putKey (tag : Nat) (kind : WireKind) : List UInt8 :=
  putVarint (tag * 8 + kind.number)

def putNumber (tag n : Nat) : List UInt8 :=
  putKey tag .varint ++ putVarint n

def putDelimited (tag : Nat) (body : List UInt8) : List UInt8 :=
  putKey tag .lengthDelimited ++ putVarint body.length ++ body

def putText (tag : Nat) (s : String) : List UInt8 :=
  putDelimited tag s.toUTF8.toList

def putOption {α : Type} (put : α → List UInt8) : Option α → List UInt8
  | some a => put a
  | none => []

def putOutputFile (f : OutputFile) : List UInt8 :=
  putText 1 f.name ++ putText 15 f.content

def putResponse (r : Response) : List UInt8 :=
  putOption (putText 1) r.error? ++ putOption (putNumber 2) r.supportedFeatures? ++
    r.files.flatMap fun f => putDelimited 15 (putOutputFile f)

end Stencil.Bundled.Wire
