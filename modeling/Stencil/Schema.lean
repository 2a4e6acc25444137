/-!
# Stencil.Schema

A protobuf schema as it is declared: files, messages with the messages nested in them, fields and
services. Every part may be left unset; an unset text reads as the empty one.

* `FieldDecl`, `MessageDecl`, `MethodDecl`, `ServiceDecl`, `FileDecl` — the declarations.
* `WireType` — the kinds of value a field can be declared with, and their numbers.
* `FieldDecl.wireType?`, `FieldDecl.isRepeated` — what the raw numbers of a field stand for.

Options, enumerations, oneofs, extensions, defaults and places in a source are left out, as nothing
is made from them.
-/

namespace Stencil

inductive WireType where
  | double | float | int64 | uint64 | int32 | fixed64 | fixed32 | bool | string
  | group | message | bytes | uint32 | enum | sfixed32 | sfixed64 | sint32 | sint64
deriving DecidableEq, Repr

namespace WireType

def ofNumber? : Int → Option WireType
  | 1 => some double
  | 2 => some float
  | 3 => some int64
  | 4 => some uint64
  | 5 => some int32
  | 6 => some fixed64
  | 7 => some fixed32
  | 8 => some bool
  | 9 => some string
  | 10 => some group
  | 11 => some message
  | 12 => some bytes
  | 13 => some uint32
  | 14 => some enum
  | 15 => some sfixed32
  | 16 => some sfixed64
  | 17 => some sint32
  | 18 => some sint64
  | _ => none

/-- The word for a wire type in messages to the user. -/
def label : WireType → String
  | double => "double"
  | float => "float"
  | int64 => "int64"
  | uint64 => "uint64"
  | int32 => "int32"
  | fixed64 => "fixed64"
  | fixed32 => "fixed32"
  | bool => "bool"
  | string => "string"
  | group => "group"
  | message => "message"
  | bytes => "bytes"
  | uint32 => "uint32"
  | enum => "enum"
  | sfixed32 => "sfixed32"
  | sfixed64 => "sfixed64"
  | sint32 => "sint32"
  | sint64 => "sint64"

def isInteger : WireType → Bool
  | int64 | uint64 | int32 | fixed64 | fixed32 | uint32 | sfixed32 | sfixed64 | sint32 | sint64 =>
    true
  | _ => false

end WireType

structure FieldDecl where
  name? : Option String := none
  label? : Option Int := none
  type? : Option Int := none
  typeName? : Option String := none
  proto3Optional? : Option Bool := none
deriving DecidableEq, Repr

namespace FieldDecl

def name (f : FieldDecl) : String := f.name?.getD ""

def typeName (f : FieldDecl) : String := f.typeName?.getD ""

def isProto3Optional (f : FieldDecl) : Bool := f.proto3Optional?.getD false

/-- `none` if the type is unset or its number stands for nothing. -/
def wireType? (f : FieldDecl) : Option WireType :=
  f.type?.bind WireType.ofNumber?

/-- Label 3. Any other label, also an unset or unknown one, declares a single value. -/
def isRepeated (f : FieldDecl) : Bool :=
  f.label? == some 3

end FieldDecl

structure MessageDecl where
  name? : Option String := none
  fields : List FieldDecl := []
  nested : List MessageDecl := []
deriving Inhabited

def MessageDecl.name (m : MessageDecl) : String := m.name?.getD ""

structure MethodDecl where
  name? : Option String := none
  inputType? : Option String := none
  outputType? : Option String := none
deriving DecidableEq, Repr

namespace MethodDecl

def name (m : MethodDecl) : String := m.name?.getD ""

def inputType (m : MethodDecl) : String := m.inputType?.getD ""

def outputType (m : MethodDecl) : String := m.outputType?.getD ""

end MethodDecl

structure ServiceDecl where
  name? : Option String := none
  methods : List MethodDecl := []
deriving DecidableEq, Repr

def ServiceDecl.name (s : ServiceDecl) : String := s.name?.getD ""

structure FileDecl where
  name? : Option String := none
  package? : Option String := none
  messages : List MessageDecl := []
  services : List ServiceDecl := []

namespace FileDecl

def name (f : FileDecl) : String := f.name?.getD ""

def package (f : FileDecl) : String := f.package?.getD ""

end FileDecl

end Stencil
