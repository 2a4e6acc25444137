import Stencil.Model.Build
import Stencil.Text.Bytes

/-!
# Stencil.Model.Link

Services and the messages that their methods name.

* `Index`          — messages by qualified name; the first message of a name stays.
* `serviceName?`   — a declared name less one trailing `Service`, unless a character would be cut.
* `serviceName`    — the same, as no character ever is.
* `Service.link`, `linkAll` — services whose methods refer to the messages of an index.
* `unlinked`       — the references that lead nowhere, in the order in which they are looked up.
* `Builder.model`  — the model of one file.
-/

namespace Stencil

structure Index where
  entries : List (String × Message) := []
deriving DecidableEq

namespace Index

def get? (index : Index) (name : String) : Option Message :=
  index.entries.lookup name

/-- A name that is already present keeps its message. -/
def insertNew (index : Index) (name : String) (m : Message) : Index :=
  match index.get? name with
  | some _ => index
  | none => ⟨index.entries ++ [(name, m)]⟩

def ofMessages (package : String) (messages : List Message) : Index :=
  messages.foldl (fun index m => index.insertNew (m.qualifiedName package) m) {}

def size (index : Index) : Nat :=
  index.entries.length

def isEmpty (index : Index) : Bool :=
  index.entries.isEmpty

end Index

def serviceSuffix : String := "service"

/-- A name less one trailing `Service` in any case of its letters. A name that is nothing else
keeps it. The suffix is counted in bytes from the end, so first it is looked at whether a character
begins there; a cut inside one would have no result. -/
def serviceName? (declared : String) : Option String :=
  let kept : String.Pos.Raw := ⟨declared.utf8ByteSize - serviceSuffix.utf8ByteSize⟩
  if 0 < kept.byteIdx && kept.isValid declared then
    match Text.behind? declared kept with
    | none => none
    | some last =>
      if Text.sameButCase last serviceSuffix then Text.before? declared kept else some declared
  else some declared

theorem serviceName?_isSome (declared : String) : (serviceName? declared).isSome := by
  rw [serviceName?]
  split
  · rename_i h
    have hvalid := String.Pos.Raw.isValid_eq_true_iff.mp (Bool.and_eq_true_iff.mp h).2
    rw [Text.behind?, dif_pos hvalid, Text.before?, dif_pos hvalid]
    dsimp only
    split <;> rfl
  · rfl

def serviceName (declared : String) : String :=
  (serviceName? declared).get (serviceName?_isSome declared)

def Method.link (index : Index) (m : MethodDecl) : Method :=
  { name := m.name
    inputType := m.inputType
    outputType := m.outputType
    input := index.get? m.inputType
    output := index.get? m.outputType }

def Service.link (index : Index) (messages : List Message) (s : ServiceDecl) : Service :=
  { name := serviceName s.name, methods := s.methods.map (Method.link index), messages }

def linkAll (package : String) (services : List ServiceDecl) (messages : List Message) :
    List Service :=
  services.map (Service.link (Index.ofMessages package messages) messages)

/-- Method and type name of every reference that is not in the index, input before output. -/
def unlinked (package : String) (services : List ServiceDecl) (messages : List Message) :
    List (String × String) :=
  let index := Index.ofMessages package messages
  services.flatMap fun s => s.methods.flatMap fun m =>
    ([m.inputType, m.outputType].filter fun type => (index.get? type).isNone).map (m.name, ·)

def Builder.model (b : Builder) (file : FileDecl) : Except BuildError Model :=
  match b.messages file.messages with
  | .error e => .error e
  | .ok messages => .ok
    { package := file.package
      fileName := file.name
      messages
      services := linkAll file.package file.services messages }

/-- The same messages, with services linked anew against them. -/
def Model.relink (m : Model) (services : List ServiceDecl) : Model :=
  { m with services := linkAll m.package services m.messages }

end Stencil
