import Stencil.Request
import Stencil.Bundled.Wire.Get

/-!
# Stencil.Bundled.Wire.Decode

Requests and descriptor sets from bytes.

* `request`       — a request for code.
* `descriptorSet` — the files of a descriptor set.

A field that occurs again replaces the value before it, and a repeated one adds to the list.
-/

namespace Stencil.Bundled.Wire

/-- A reader one level further in, if there is one. -/
def oneDown {σ : Type} (step : Nat → FieldStep σ) : Nat → Option (FieldStep σ)
  | 0 => none
  | levels + 1 => some (step levels)

def fieldStep (levels : Nat) : FieldStep FieldDecl := fun f tag kind => do
  match tag with
  | 1 => return { f with name? := some (← within "FieldDescriptorProto.name" (text kind)) }
  | 4 => return { f with label? := some (← within "FieldDescriptorProto.label" (integer kind)) }
  | 5 => return { f with type? := some (← within "FieldDescriptorProto.r#type" (integer kind)) }
  | 6 =>
    return { f with typeName? := some (← within "FieldDescriptorProto.type_name" (text kind)) }
  | 17 =>
    let flag ← within "FieldDescriptorProto.proto3_optional" (boolean kind)
    return { f with proto3Optional? := some flag }
  | _ =>
    skip levels tag kind
    return f

/-- The fields of a message, with the reader for messages nested in it. -/
def messageFields (levels : Nat) (nested : Option (FieldStep MessageDecl)) :
    FieldStep MessageDecl := fun m tag kind => do
  match tag with
  | 1 => return { m with name? := some (← within "DescriptorProto.name" (text kind)) }
  | 2 =>
    let f ← within "DescriptorProto.field" (delimited (oneDown fieldStep levels) kind {})
    return { m with fields := m.fields ++ [f] }
  | 3 =>
    let inner ← within "DescriptorProto.nested_type" (delimited nested kind {})
    return { m with nested := m.nested ++ [inner] }
  | _ =>
    skip levels tag kind
    return m

def messageStep : Nat → FieldStep MessageDecl
  | 0 => messageFields 0 none
  | levels + 1 => messageFields (levels + 1) (some (messageStep levels))

def methodStep (levels : Nat) : FieldStep MethodDecl := fun m tag kind => do
  match tag with
  | 1 => return { m with name? := some (← within "MethodDescriptorProto.name" (text kind)) }
  | 2 =>
    return { m with inputType? := some (← within "MethodDescriptorProto.input_type" (text kind)) }
  | 3 =>
    return { m with outputType? := some (← within "MethodDescriptorProto.output_type" (text kind)) }
  | _ =>
    skip levels tag kind
    return m

def serviceStep (levels : Nat) : FieldStep ServiceDecl := fun s tag kind => do
  match tag with
  | 1 => return { s with name? := some (← within "ServiceDescriptorProto.name" (text kind)) }
  | 2 =>
    let m ← within "ServiceDescriptorProto.method" (delimited (oneDown methodStep levels) kind {})
    return { s with methods := s.methods ++ [m] }
  | _ =>
    skip levels tag kind
    return s

def fileStep (levels : Nat) : FieldStep FileDecl := fun f tag kind => do
  match tag with
  | 1 => return { f with name? := some (← within "FileDescriptorProto.name" (text kind)) }
  | 2 => return { f with package? := some (← within "FileDescriptorProto.package" (text kind)) }
  | 4 =>
    let m ← within "FileDescriptorProto.message_type"
      (delimited (oneDown messageStep levels) kind {})
    return { f with messages := f.messages ++ [m] }
  | 6 =>
    let s ← within "FileDescriptorProto.service" (delimited (oneDown serviceStep levels) kind {})
    return { f with services := f.services ++ [s] }
  | _ =>
    skip levels tag kind
    return f

def requestStep (levels : Nat) : FieldStep Request := fun r tag kind => do
  match tag with
  | 1 =>
    let name ← within "CodeGeneratorRequest.file_to_generate" (text kind)
    return { r with listed := r.listed ++ [name] }
  | 2 =>
    return { r with parameter? := some (← within "CodeGeneratorRequest.parameter" (text kind)) }
  | 15 =>
    let f ← within "CodeGeneratorRequest.proto_file" (delimited (oneDown fileStep levels) kind {})
    return { r with files := r.files ++ [f] }
  | _ =>
    skip levels tag kind
    return r

def setStep (levels : Nat) : FieldStep (List FileDecl) := fun files tag kind => do
  match tag with
  | 1 =>
    let f ← within "FileDescriptorSet.file" (delimited (oneDown fileStep levels) kind {})
    return files ++ [f]
  | _ =>
    skip levels tag kind
    return files

def request (bytes : ByteArray) : Except DecodeError Request :=
  whole requestStep {} bytes

def descriptorSet (bytes : ByteArray) : Except DecodeError (List FileDecl) :=
  whole setStep [] bytes

end Stencil.Bundled.Wire
