import Stencil.Schema
import Stencil.Text.Pieces

/-!
# Stencil.Language

The target languages and how each writes types.

* `Language`          — a target language; `name` and `ofName?` give its written form.
* `Language.scalar?`  — the lexicon for scalar wire types.
* `Language.wrap`     — a collection of a given element type.
* `Language.fieldType` — the type name of a declared field, or the reason why there is none.
* `bareTypeName`      — the last component of a qualified name, less an item marker.
-/

namespace Stencil

inductive Language where
  | typescript | dart | go
deriving DecidableEq, Repr

/-- Marks a nested message that only describes the elements of a collection. -/
def itemMarker : String := "__"

def isItemName (name : String) : Bool :=
  itemMarker.toList.isPrefixOf name.toList

/-- A name without one leading marker. -/
def dropItemMarker (name : String) : String :=
  String.ofList (Text.dropMark itemMarker.toList name.toList)

/-- The last component of a qualified name, less an item marker. -/
def bareTypeName (qualified : String) : String :=
  dropItemMarker (String.ofList (Text.afterLast '.' qualified.toList))

def timestampTypeName : String := ".google.protobuf.Timestamp"

/-- A field whose wire type has no name in the target language. -/
structure Unresolved where
  field : String
  wireType : String
  language : Language
deriving DecidableEq, Repr

namespace Language

def all : List Language := [typescript, dart, go]

def name : Language → String
  | typescript => "typescript"
  | dart => "dart"
  | go => "go"

def ofName? (s : String) : Option Language :=
  all.find? (·.name == s)

def integerType : Language → String
  | typescript => "number"
  | dart | go => "int"

def scalar? : Language → WireType → Option String
  | typescript, .string => some "string"
  | typescript, .float | typescript, .double => some "number"
  | typescript, .bool => some "boolean"
  | dart, .string => some "String"
  | dart, .float | dart, .double => some "double"
  | dart, .bool => some "bool"
  | go, .string => some "string"
  | go, .float => some "float32"
  | go, .double => some "float64"
  | go, .bool => some "bool"
  | lang, type => if type.isInteger then some lang.integerType else none

/-- The native type for a point in time. -/
def timestampType : Language → String
  | typescript => "Date"
  | dart => "DateTime"
  | go => "time.Time"

/-- The place of the element type in `collectionForm`. -/
def placeholder : String := "\x7b\x7d"

def collectionForm : Language → String
  | typescript => "\x7b\x7d[]"
  | dart => "List<\x7b\x7d>"
  | go => "[]\x7b\x7d"

/-- The collection of `element`. Only the placeholder of the form is replaced, so an element that
contains one keeps it. -/
def wrap (lang : Language) (element : String) : String :=
  String.ofList
    (Text.replaceFirst placeholder.toList element.toList lang.collectionForm.toList)

def messageType (lang : Language) (typeName : String) : String :=
  if typeName = timestampTypeName then lang.timestampType else bareTypeName typeName

/-- The words for a type that is unset, or whose number stands for nothing. -/
def unknownTypeLabel : Option Int → String
  | some number => s!"unknown({number})"
  | none => "unset"

/-- The type of one value of a field. -/
def elementType (lang : Language) (f : FieldDecl) : Except Unresolved String :=
  match f.wireType? with
  | some .message => .ok (lang.messageType f.typeName)
  | some type =>
    match lang.scalar? type with
    | some name => .ok name
    | none => .error ⟨f.name, type.label, lang⟩
  | none => .error ⟨f.name, unknownTypeLabel f.type?, lang⟩

def fieldType (lang : Language) (f : FieldDecl) : Except Unresolved String :=
  match lang.elementType f with
  | .error e => .error e
  | .ok element => .ok (if f.isRepeated then lang.wrap element else element)

end Language

def Unresolved.message (u : Unresolved) : String :=
  s!"no {u.language.name} type for field `{u.field}` of wire type {u.wireType}"

end Stencil
