import Stencil.Language

/-!
# Stencil.Model

The model that templates see. Nested messages are held by value: a message carries its enclosing
messages, its children and its item messages.

* `Field`, `Message`, `Method`, `Service`, `Model` — the parts.
* `Message.nestedName`, `Message.qualifiedName` — names through the enclosing messages.
* `Message.item?`  — an item message by its local name.
-/

namespace Stencil

structure Field where
  name : String := ""
  typeName : String := ""
  isRequired : Bool := false
  isOptional : Bool := false
  isTimestamp : Bool := false
  isRepeated : Bool := false
  isMessage : Bool := false
deriving DecidableEq, Repr

/-- `parents` runs from the outermost enclosing message inward. The parents are taken before their
own nested messages were built, so they have neither children nor items. -/
structure Message where
  name : String := ""
  fields : List Field := []
  parents : List Message := []
  children : List Message := []
  items : List Message := []
  isItem : Bool := false
deriving Inhabited

mutual

def Message.decEq : (a b : Message) → Decidable (a = b)
  | ⟨name, fields, parents, children, items, isItem⟩,
    ⟨name', fields', parents', children', items', isItem'⟩ =>
    match instDecidableEqProd (name, fields, isItem) (name', fields', isItem'),
      Message.decEqAll parents parents', Message.decEqAll children children',
      Message.decEqAll items items' with
    | isTrue h, isTrue hp, isTrue hc, isTrue hi => isTrue (by simp_all)
    | isFalse h, _, _, _ => isFalse (by simp_all)
    | _, isFalse h, _, _ => isFalse (by simp_all)
    | _, _, isFalse h, _ => isFalse (by simp_all)
    | _, _, _, isFalse h => isFalse (by simp_all)

def Message.decEqAll : (as bs : List Message) → Decidable (as = bs)
  | [], [] => isTrue rfl
  | [], _ :: _ => isFalse (by simp)
  | _ :: _, [] => isFalse (by simp)
  | a :: as, b :: bs =>
    match Message.decEq a b, Message.decEqAll as bs with
    | isTrue h, isTrue hs => isTrue (by simp_all)
    | isFalse h, _ => isFalse (by simp_all)
    | _, isFalse h => isFalse (by simp_all)

end

instance : DecidableEq Message := Message.decEq

/-- Names joined by dots. -/
def dotted (names : List String) : String :=
  ".".intercalate names

namespace Message

def depth (m : Message) : Nat :=
  m.parents.length

def nestedName (m : Message) : String :=
  dotted (m.parents.map (·.name) ++ [m.name])

def qualifiedName (package : String) (m : Message) : String :=
  if package.isEmpty then "." ++ m.nestedName else "." ++ package ++ "." ++ m.nestedName

/-- The first item message of a local name, which may be given with or without the marker. -/
def item? (m : Message) (name : String) : Option Message :=
  m.items.find? (·.name == dropItemMarker name)

end Message

/-- `input` and `output` are the messages of the model that the declared types name, if any. -/
structure Method where
  name : String := ""
  inputType : String := ""
  outputType : String := ""
  input : Option Message := none
  output : Option Message := none
deriving DecidableEq

/-- `messages` are those of the file that declares the service. -/
structure Service where
  name : String := ""
  methods : List Method := []
  messages : List Message := []
deriving DecidableEq

structure Model where
  package : String := ""
  fileName : String := ""
  messages : List Message := []
  services : List Service := []
deriving DecidableEq

def Model.isEmpty (m : Model) : Bool :=
  m.messages.isEmpty && m.services.isEmpty

end Stencil
