import Stencil.Model

/-!
# Stencil.Model.Build

From declarations to messages.

* `Field.ofDecl`        — a field with its type name and flags.
* `Message.ofDecl`, `Message.ofLevel` — a declaration with all that is nested in it, below given
  enclosing messages.
* `Message.family`      — a message followed by its children and theirs, each before its own.
* `listed`              — the sequence a model shows: no item, and nothing below one.
-/

namespace Stencil

/-- A field without a type, and the declaration that holds it. -/
structure BuildError where
  message : String
  cause : Unresolved
deriving DecidableEq, Repr

def BuildError.text (e : BuildError) : String :=
  s!"in message `{e.message}`: {e.cause.message}"

def Field.ofDecl (lang : Language) (f : FieldDecl) : Except Unresolved Field :=
  match lang.fieldType f with
  | .error e => .error e
  | .ok typeName => .ok
    { name := f.name
      typeName
      isRequired := !f.isProto3Optional
      isOptional := f.isProto3Optional
      isTimestamp := f.typeName == timestampTypeName
      isRepeated := f.isRepeated
      isMessage := f.wireType? == some .message }

/-- The fields in order, or the reason of the first that has no type. -/
def Field.ofDecls (lang : Language) : List FieldDecl → Except Unresolved (List Field)
  | [] => .ok []
  | f :: rest =>
    match Field.ofDecl lang f with
    | .error e => .error e
    | .ok field =>
      match Field.ofDecls lang rest with
      | .error e => .error e
      | .ok fields => .ok (field :: fields)

mutual

/-- Fields are built before nested messages. What is nested sees this message as its last parent,
and is split into children and items. -/
def Message.ofDecl (lang : Language) (parents : List Message) :
    MessageDecl → Except BuildError Message
  | ⟨name?, fields, nested⟩ =>
    let declared := name?.getD ""
    match Field.ofDecls lang fields with
    | .error e => .error ⟨dotted (parents.map (·.name) ++ [declared]), e⟩
    | .ok fields =>
      let own : Message :=
        { name := dropItemMarker declared, fields, parents, isItem := isItemName declared }
      match Message.ofLevel lang (parents ++ [own]) nested with
      | .error e => .error e
      | .ok below => .ok
        { own with children := below.filter (!·.isItem), items := below.filter (·.isItem) }

def Message.ofLevel (lang : Language) (parents : List Message) :
    List MessageDecl → Except BuildError (List Message)
  | [] => .ok []
  | decl :: rest =>
    match Message.ofDecl lang parents decl with
    | .error e => .error e
    | .ok m =>
      match Message.ofLevel lang parents rest with
      | .error e => .error e
      | .ok ms => .ok (m :: ms)

end

mutual

/-- A message, then the families of its children. -/
def Message.family : Message → List Message
  | ⟨name, fields, parents, children, items, isItem⟩ =>
    ⟨name, fields, parents, children, items, isItem⟩ :: Message.families children

def Message.families : List Message → List Message
  | [] => []
  | m :: rest => m.family ++ Message.families rest

end

/-- With `flatten` the families of the roots, otherwise each root with its children. -/
def listed (flatten : Bool) (roots : List Message) : List Message :=
  (roots.filter (!·.isItem)).flatMap fun root =>
    if flatten then root.family else root :: root.children

/-- How a model is built: for which language, and how deep its sequence of messages reaches. -/
structure Builder where
  language : Language
  flatten : Bool := true
deriving DecidableEq, Repr

def Builder.messages (b : Builder) (decls : List MessageDecl) : Except BuildError (List Message) :=
  match Message.ofLevel b.language [] decls with
  | .error e => .error e
  | .ok roots => .ok (listed b.flatten roots)

end Stencil
