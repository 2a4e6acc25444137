import Stencil.Proofs.Linking
import Stencil.Proofs.Untyped

/-!
# Stencil.Proofs.Erasure

What a model keeps when the type names of its fields are taken out.

* `Field.erased`, `Message.erased`, `Method.erased`, `Service.erased`, `Model.erased` — the parts
  without type names, at every place where a message is held.

Listing and linking look at no type name, so they go through erasure (`listed_erased`,
`linkAll_erased`); two builds of one level in different languages come out alike after it
(`Message.ofLevel_erased`). That a build succeeds does not depend on the language at all.
-/

namespace Stencil

def Field.erased (f : Field) : Field :=
  { f with typeName := "" }

mutual

def Message.erased : Message → Message
  | ⟨name, fields, parents, children, items, isItem⟩ =>
    ⟨name, fields.map Field.erased, Message.erasedAll parents, Message.erasedAll children,
      Message.erasedAll items, isItem⟩

def Message.erasedAll : List Message → List Message
  | [] => []
  | m :: rest => m.erased :: Message.erasedAll rest

end

def Method.erased (m : Method) : Method :=
  { m with input := m.input.map Message.erased, output := m.output.map Message.erased }

def Service.erased (s : Service) : Service :=
  { s with methods := s.methods.map Method.erased, messages := s.messages.map Message.erased }

def Model.erased (m : Model) : Model :=
  { m with messages := m.messages.map Message.erased, services := m.services.map Service.erased }

/-! ## Messages -/

theorem Message.erasedAll_eq_map (ms : List Message) :
    Message.erasedAll ms = ms.map Message.erased := by
  induction ms with
  | nil => rfl
  | cons m rest ih => rw [Message.erasedAll, ih, List.map_cons]

theorem Message.erased_eq (m : Message) :
    m.erased = { name := m.name, fields := m.fields.map Field.erased,
                 parents := m.parents.map Message.erased,
                 children := m.children.map Message.erased,
                 items := m.items.map Message.erased, isItem := m.isItem } := by
  cases m
  simp only [Message.erased, Message.erasedAll_eq_map]

@[simp] theorem Message.erased_name (m : Message) : m.erased.name = m.name := by
  cases m
  rfl

@[simp] theorem Message.erased_isItem (m : Message) : m.erased.isItem = m.isItem := by
  cases m
  rfl

@[simp] theorem Message.erased_parents (m : Message) :
    m.erased.parents = m.parents.map Message.erased := by
  rw [Message.erased_eq]

@[simp] theorem Message.erased_children (m : Message) :
    m.erased.children = m.children.map Message.erased := by
  rw [Message.erased_eq]

@[simp] theorem Message.erased_qualifiedName (package : String) (m : Message) :
    m.erased.qualifiedName package = m.qualifiedName package := by
  simp [Message.qualifiedName, Message.nestedName, Function.comp_def]

theorem Message.filter_erased (keep : Bool → Bool) (ms : List Message) :
    (ms.map Message.erased).filter (keep ·.isItem) =
      (ms.filter (keep ·.isItem)).map Message.erased :=
  Message.filter_map_isItem Message.erased_isItem keep ms

theorem Message.holding_erased (m : Message) (below : List Message) :
    (m.holding below).erased = m.erased.holding (below.map Message.erased) := by
  simp only [Message.holding, Message.erased_eq, Message.filter_erased (!·),
    Message.filter_erased (·)]

theorem MessageDecl.own_erased (d : MessageDecl) (parents : List Message) (fields : List Field) :
    (d.own parents fields).erased =
      d.own (parents.map Message.erased) (fields.map Field.erased) := by
  simp [MessageDecl.own, Message.erased_eq]

/-! ## Sequences and services -/

/-- Induction on a sequence of messages: over the children of the first and over the rest. -/
theorem Message.families_induction {P : List Message → Prop} (nil : P [])
    (cons : ∀ m rest, P m.children → P rest → P (m :: rest)) (ms : List Message) : P ms :=
  Message.rec_1 (motive_1 := fun m => P m.children) (motive_2 := P)
    (fun _ _ _ _ _ _ _ children _ => children) nil cons ms

theorem Message.families_erased (ms : List Message) :
    Message.families (ms.map Message.erased) = (Message.families ms).map Message.erased := by
  induction ms using Message.families_induction with
  | nil => rfl
  | cons m rest children ih =>
    rw [List.map_cons, Message.families, Message.families, Message.family_eq, Message.family_eq,
      Message.erased_children, children, ih, List.map_append, List.map_cons]

theorem listed_erased (flatten : Bool) (roots : List Message) :
    listed flatten (roots.map Message.erased) = (listed flatten roots).map Message.erased := by
  have hroots := Message.filter_erased (!·) roots
  cases flatten with
  | true => rw [listed_true, listed_true, hroots, Message.families_erased]
  | false =>
    simp only [listed, Bool.false_eq_true, if_false, hroots, List.flatMap_map, List.map_flatMap]
    congr 1
    funext m
    rw [Message.erased_children, List.map_cons]

theorem Index.get?_erased (package : String) (ms : List Message) (type : String) :
    (Index.ofMessages package (ms.map Message.erased)).get? type =
      ((Index.ofMessages package ms).get? type).map Message.erased := by
  rw [Index.get?_ofMessages, Index.get?_ofMessages, List.find?_map]
  congr 2
  funext m
  simp

theorem linkAll_erased (package : String) (services : List ServiceDecl) (ms : List Message) :
    linkAll package services (ms.map Message.erased) =
      (linkAll package services ms).map Service.erased := by
  simp only [linkAll, List.map_map]
  refine List.map_congr_left fun s _ => ?_
  simp only [Function.comp_apply, Service.link, Service.erased, List.map_map]
  congr 1
  refine List.map_congr_left fun m _ => ?_
  simp only [Function.comp_apply, Method.link, Method.erased, Index.get?_erased]

/-! ## Builds -/

theorem Field.erased_congr {lang₁ lang₂ : Language} {f : FieldDecl} {a b : Field}
    (ha : Field.ofDecl lang₁ f = .ok a) (hb : Field.ofDecl lang₂ f = .ok b) :
    a.erased = b.erased := by
  obtain ⟨typeName₁, -, rfl⟩ := Field.ofDecl_eq_ok.mp ha
  obtain ⟨typeName₂, -, rfl⟩ := Field.ofDecl_eq_ok.mp hb
  rfl

theorem Field.erased_congr_all {lang₁ lang₂ : Language} {decls : List FieldDecl}
    {as bs : List Field} (ha : Field.ofDecls lang₁ decls = .ok as)
    (hb : Field.ofDecls lang₂ decls = .ok bs) :
    as.map Field.erased = bs.map Field.erased := by
  induction decls generalizing as bs with
  | nil =>
    cases ha
    cases hb
    rfl
  | cons f rest ih =>
    obtain ⟨a, as', ha', has, rfl⟩ := Field.ofDecls_cons_eq_ok.mp ha
    obtain ⟨b, bs', hb', hbs, rfl⟩ := Field.ofDecls_cons_eq_ok.mp hb
    rw [List.map_cons, List.map_cons, Field.erased_congr ha' hb', ih has hbs]

/-- The enclosing messages may be those of two languages as well. -/
theorem Message.ofLevel_erased {lang₁ lang₂ : Language} {parents₁ parents₂ : List Message}
    {decls : List MessageDecl} {ms₁ ms₂ : List Message}
    (hparents : parents₁.map Message.erased = parents₂.map Message.erased)
    (h₁ : Message.ofLevel lang₁ parents₁ decls = .ok ms₁)
    (h₂ : Message.ofLevel lang₂ parents₂ decls = .ok ms₂) :
    ms₁.map Message.erased = ms₂.map Message.erased := by
  induction decls using MessageDecl.forest_induction
    generalizing parents₁ parents₂ ms₁ ms₂ with
  | nil =>
    cases h₁
    cases h₂
    rfl
  | cons d rest nested siblings =>
    obtain ⟨fields₁, below₁, others₁, hf₁, hb₁, ho₁, rfl⟩ := Message.ofLevel_cons_eq_ok.mp h₁
    obtain ⟨fields₂, below₂, others₂, hf₂, hb₂, ho₂, rfl⟩ := Message.ofLevel_cons_eq_ok.mp h₂
    have hown : (d.own parents₁ fields₁).erased = (d.own parents₂ fields₂).erased := by
      rw [MessageDecl.own_erased, MessageDecl.own_erased, hparents,
        Field.erased_congr_all hf₁ hf₂]
    have hbelow : below₁.map Message.erased = below₂.map Message.erased := by
      refine nested ?_ hb₁ hb₂
      rw [List.map_append, List.map_append, hparents, List.map_singleton, List.map_singleton, hown]
    rw [List.map_cons, List.map_cons, Message.holding_erased, Message.holding_erased, hown, hbelow,
      siblings hparents ho₁ ho₂]

/-- Two languages agree on whether a file can be built, and on the model up to the type names of
fields, at every place where a message is held. A failed build names one field in both. -/
theorem model_independent_of_language (lang₁ lang₂ : Language) (flatten : Bool) (file : FileDecl) :
    (∃ m₁ m₂, Builder.model ⟨lang₁, flatten⟩ file = .ok m₁ ∧
        Builder.model ⟨lang₂, flatten⟩ file = .ok m₂ ∧ m₁.erased = m₂.erased) ∨
      ∃ message field wireType,
        Builder.model ⟨lang₁, flatten⟩ file = .error ⟨message, ⟨field, wireType, lang₁⟩⟩ ∧
        Builder.model ⟨lang₂, flatten⟩ file = .error ⟨message, ⟨field, wireType, lang₂⟩⟩ := by
  cases h₁ : Message.ofLevel lang₁ [] file.messages with
  | error e =>
    obtain ⟨p, i, above, d, f, hat, rfl⟩ := Message.ofLevel_eq_error.mp h₁
    refine .inr ⟨_, f.name, f.typeLabel, Builder.model_eq_error.mpr h₁,
      Builder.model_eq_error.mpr (Message.ofLevel_eq_error.mpr ⟨p, i, above, d, f, hat, rfl⟩)⟩
  | ok roots₁ =>
    cases h₂ : Message.ofLevel lang₂ [] file.messages with
    | error e =>
      obtain ⟨p, i, above, d, f, hat, -⟩ := Message.ofLevel_eq_error.mp h₂
      exact absurd hat.toUntypedAt (Message.ofLevel_typed h₁)
    | ok roots₂ =>
      refine .inl ⟨_, _, Builder.model_eq_ok.mpr ⟨roots₁, h₁, rfl⟩,
        Builder.model_eq_ok.mpr ⟨roots₂, h₂, rfl⟩, ?_⟩
      have hlisted : (listed flatten roots₁).map Message.erased =
          (listed flatten roots₂).map Message.erased := by
        rw [← listed_erased, ← listed_erased, Message.ofLevel_erased rfl h₁ h₂]
      simp only [Model.erased, ← linkAll_erased, hlisted]

end Stencil
