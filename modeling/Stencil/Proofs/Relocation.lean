import Stencil.Proofs.Descriptor

/-!
# Stencil.Proofs.Relocation

A level that is built inside given messages, against the same level built on its own.

* `Message.relocated`    — a message moved inside others: these come in front of the messages around
  it, and so with everything that it holds.
* `BuildError.relocated` — a failure in a declaration that stands inside them.

Messages hand themselves on while a level is built, so the messages around a level are partly given
and partly built, and only the latter are moved. `ofLevel_relocated` is the induction over the
forest, for both together; `level_relocates` is what it says about a whole level.
-/

namespace Stencil

mutual

/-- The messages around `m` are held by it too, and move along. Those in `outer` stay as they are. -/
def Message.relocated (outer : List Message) : Message → Message
  | ⟨name, fields, parents, children, items, isItem⟩ =>
    ⟨name, fields, outer ++ Message.relocatedAll outer parents, Message.relocatedAll outer children,
      Message.relocatedAll outer items, isItem⟩

def Message.relocatedAll (outer : List Message) : List Message → List Message
  | [] => []
  | m :: rest => m.relocated outer :: Message.relocatedAll outer rest

end

def BuildError.relocated (outer : List Message) (e : BuildError) : BuildError :=
  { e with message := dotted (outer.map (·.name) ++ [e.message]) }

/-! ## Messages -/

theorem Message.relocatedAll_eq_map (outer ms : List Message) :
    Message.relocatedAll outer ms = ms.map (Message.relocated outer) := by
  induction ms with
  | nil => rfl
  | cons m rest ih => rw [Message.relocatedAll, ih, List.map_cons]

theorem Message.relocated_eq (outer : List Message) (m : Message) :
    m.relocated outer =
      { m with parents := outer ++ m.parents.map (Message.relocated outer)
               children := m.children.map (Message.relocated outer)
               items := m.items.map (Message.relocated outer) } := by
  cases m
  simp only [Message.relocated, Message.relocatedAll_eq_map]

@[simp] theorem Message.relocated_name (outer : List Message) (m : Message) :
    (m.relocated outer).name = m.name := by
  cases m
  rfl

@[simp] theorem Message.relocated_isItem (outer : List Message) (m : Message) :
    (m.relocated outer).isItem = m.isItem := by
  cases m
  rfl

theorem MessageDecl.own_relocated (outer : List Message) (d : MessageDecl)
    (parents : List Message) (fields : List Field) :
    (d.own parents fields).relocated outer =
      d.own (outer ++ parents.map (Message.relocated outer)) fields := by
  simp [MessageDecl.own, Message.relocated_eq]

theorem Message.holding_relocated (outer : List Message) (m : Message) (below : List Message) :
    (m.holding below).relocated outer =
      (m.relocated outer).holding (below.map (Message.relocated outer)) := by
  have hparted (keep : Bool → Bool) :=
    Message.filter_map_isItem (Message.relocated_isItem outer) keep below
  simp only [Message.holding, Message.relocated_eq, hparted (!·), hparted (·)]

/-! ## Names -/

theorem dotted_append (as : List String) {bs : List String} (hb : bs ≠ []) :
    dotted (as ++ bs) = dotted (as ++ [dotted bs]) := by
  cases as with
  | nil => exact String.intercalate_singleton.symm
  | cons a as =>
    have hne : a :: as ≠ [] := List.cons_ne_nil a as
    have hone : [dotted bs] ≠ [] := List.cons_ne_nil _ _
    rw [dotted, dotted, String.intercalate_append_of_ne_nil hne hb,
      String.intercalate_append_of_ne_nil hne hone, String.intercalate_singleton]
    rfl

theorem BuildError.relocated_named (outer parents : List Message) (name : String)
    (cause : Unresolved) :
    BuildError.relocated outer ⟨dotted (parents.map (·.name) ++ [name]), cause⟩ =
      ⟨dotted ((outer ++ parents.map (Message.relocated outer)).map (·.name) ++ [name]), cause⟩ := by
  have hnames : (outer ++ parents.map (Message.relocated outer)).map (·.name) =
      outer.map (·.name) ++ parents.map (·.name) := by
    simp [Function.comp_def]
  have hne : parents.map (·.name) ++ [name] ≠ [] := by simp
  rw [hnames, List.append_assoc, dotted_append (outer.map (·.name)) hne]
  rfl

/-! ## Levels -/

theorem Message.ofLevel_relocated (lang : Language) (outer parents : List Message)
    (decls : List MessageDecl) :
    Message.ofLevel lang (outer ++ parents.map (Message.relocated outer)) decls =
      match Message.ofLevel lang parents decls with
      | .ok ms => .ok (ms.map (Message.relocated outer))
      | .error e => .error (e.relocated outer) := by
  induction decls using MessageDecl.forest_induction generalizing parents with
  | nil => rfl
  | cons d rest nested siblings =>
    simp only [Message.ofLevel, Message.ofDecl_eq]
    cases Field.ofDecls lang d.fields with
    | error u => exact congrArg Except.error (BuildError.relocated_named outer parents d.name u).symm
    | ok fields =>
      have hbelow := nested (parents ++ [d.own parents fields])
      rw [List.map_append, ← List.append_assoc, List.map_singleton,
        MessageDecl.own_relocated] at hbelow
      simp only [hbelow]
      cases Message.ofLevel lang (parents ++ [d.own parents fields]) d.nested with
      | error e => rfl
      | ok below =>
        simp only [siblings parents]
        cases Message.ofLevel lang parents rest with
        | error e => rfl
        | ok others =>
          simp only [List.map_cons, Message.holding_relocated, MessageDecl.own_relocated]

/-- A level inside given messages is built just if it is built on its own. It holds the same messages
then, each moved inside the given ones; otherwise it fails at the same field, in the declaration of
the same path inside them. -/
theorem level_relocates (lang : Language) (outer : List Message) (decls : List MessageDecl) :
    Message.ofLevel lang outer decls =
      match Message.ofLevel lang [] decls with
      | .ok ms => .ok (ms.map (Message.relocated outer))
      | .error e => .error (e.relocated outer) := by
  have h := Message.ofLevel_relocated lang outer [] decls
  rwa [List.map_nil, List.append_nil] at h

end Stencil
