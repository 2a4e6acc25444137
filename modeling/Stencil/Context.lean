import Stencil.Data
import Stencil.Settings

/-!
# Stencil.Context

What one rendered file is made from.

* `Context`       — a model, and the message, service or method in it that the file is for.
* `contexts`      — the contexts of a model, in the order of its parts.
* `Context.bindings` — the variables that templates see.
-/

namespace Stencil

structure Context where
  file : Model
  message? : Option Message := none
  service? : Option Service := none
  method? : Option Method := none
deriving DecidableEq

def Context.package (c : Context) : String := c.file.package

def contexts (model : Model) : UnitKind → List Context
  | .file => [⟨model, none, none, none⟩]
  | .message => model.messages.map fun m => ⟨model, some m, none, none⟩
  | .service => model.services.map fun s => ⟨model, none, some s, none⟩
  | .method =>
    model.services.flatMap fun s => s.methods.map fun m => ⟨model, none, some s, some m⟩

def Field.data (f : Field) : Data :=
  .record [("name", .text f.name), ("type_name", .text f.typeName),
    ("is_required", .boolean f.isRequired), ("is_optional", .boolean f.isOptional),
    ("is_timestamp", .boolean f.isTimestamp), ("is_repeated", .boolean f.isRepeated),
    ("is_message", .boolean f.isMessage)]

mutual

def Message.data : Message → Data
  | ⟨name, fields, parents, children, items, isItem⟩ =>
    .record [("name", .text name), ("fields", .list (fields.map Field.data)),
      ("parents", .list (Message.allData parents)), ("children", .list (Message.allData children)),
      ("item_messages", .list (Message.allData items)), ("is_item", .boolean isItem)]

def Message.allData : List Message → List Data
  | [] => []
  | m :: rest => m.data :: Message.allData rest

end

def Method.data (m : Method) : Data :=
  .record [("name", .text m.name), ("input_type", .text m.inputType),
    ("output_type", .text m.outputType), ("input", .ofOption Message.data m.input),
    ("output", .ofOption Message.data m.output)]

def Service.data (s : Service) : Data :=
  .record [("name", .text s.name), ("methods", .list (s.methods.map Method.data)),
    ("messages", .list (s.messages.map Message.data))]

def Model.data (m : Model) : Data :=
  .record [("package", .text m.package), ("file_name", .text m.fileName),
    ("messages", .list (m.messages.map Message.data)),
    ("services", .list (m.services.map Service.data))]

def Context.bindings (c : Context) : List (String × Data) :=
  [("package", .text c.package), ("file", c.file.data)] ++
    (c.message?.map fun m => ("message", m.data)).toList ++
    (c.service?.map fun s => ("service", s.data)).toList ++
    (c.method?.map fun m => ("method", m.data)).toList

end Stencil
