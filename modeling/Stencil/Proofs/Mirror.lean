import Mathlib.Data.List.Forall2
import Stencil.Proofs.Lineage
import Stencil.Proofs.Untyped

/-!
# Stencil.Proofs.Mirror

The built tree against the tree of declarations, node by node.

* `Mirrors` — a message says what its declaration says, and so does everything nested in it, in
  children and items alike.

While a level is built, a message hands itself on to those nested in it before they are attached to
it. What they keep is still the finished message, less what is nested in it: `Mirrors` speaks of the
finished message alone, and `ofLevel_mirrors` shows by induction on the forest that a build meets
it. `built_tree_mirrors` adds where every message lies.
-/

namespace Stencil

open MessageDecl (chain?)

mutual

/-- `m` stands for the declaration `d` inside the messages `parents`. -/
inductive Mirrors (lang : Language) : List Message → MessageDecl → Message → Prop where
  | message {parents : List Message} {d : MessageDecl} {m : Message}
      (name : d.name = (if m.isItem then itemMarker else "") ++ m.name)
      (isItem : m.isItem = true ↔ itemMarker.toList <+: d.name.toList)
      (fields : List.Forall₂ (fun f field => Field.ofDecl lang f = .ok field) d.fields m.fields)
      (lineage : m.parents = parents)
      (children : MirrorsAll lang (parents ++ [m.emptied]) (d.nested.filter (!·.isItem)) m.children)
      (items : MirrorsAll lang (parents ++ [m.emptied]) (d.nested.filter (·.isItem)) m.items) :
      Mirrors lang parents d m

/-- One message for every declaration, in order. This is `List.Forall₂`, which cannot stand in the
definition of `Mirrors` itself because the parents change on the way down. -/
inductive MirrorsAll (lang : Language) : List Message → List MessageDecl → List Message → Prop where
  | nil {parents : List Message} : MirrorsAll lang parents [] []
  | cons {parents : List Message} {d : MessageDecl} {m : Message} {decls : List MessageDecl}
      {ms : List Message} (first : Mirrors lang parents d m)
      (rest : MirrorsAll lang parents decls ms) : MirrorsAll lang parents (d :: decls) (m :: ms)

end

variable {lang : Language}

theorem mirrorsAll_iff {parents : List Message} {decls : List MessageDecl} {ms : List Message} :
    MirrorsAll lang parents decls ms ↔ List.Forall₂ (Mirrors lang parents) decls ms := by
  constructor
  · intro h
    induction decls generalizing ms with
    | nil =>
      cases h
      exact .nil
    | cons d rest ih =>
      cases h with
      | cons first rest => exact .cons first (ih rest)
  · intro h
    induction h with
    | nil => exact .nil
    | cons first _ ih => exact .cons first ih

/-! ## One declaration -/

theorem isItemName_iff {name : String} :
    isItemName name = true ↔ itemMarker.toList <+: name.toList := by
  rw [isItemName, List.isPrefixOf_iff_prefix]

theorem marker_dropItemMarker (name : String) :
    name = (if isItemName name then itemMarker else "") ++ dropItemMarker name := by
  cases hitem : isItemName name with
  | false =>
    rw [dropItemMarker_of_not_item hitem]
    simp
  | true =>
    obtain ⟨rest, hrest⟩ := isItemName_iff.mp hitem
    have hprefix : itemMarker.toList.isPrefixOf name.toList = true := hitem
    rw [← String.toList_inj, if_pos rfl, dropItemMarker, Text.dropMark, if_pos hprefix, ← hrest]
    simp

theorem Field.ofDecls_forall₂ {decls : List FieldDecl} {fields : List Field}
    (h : Field.ofDecls lang decls = .ok fields) :
    List.Forall₂ (fun f field => Field.ofDecl lang f = .ok field) decls fields := by
  induction decls generalizing fields with
  | nil =>
    cases h
    exact .nil
  | cons f rest ih =>
    obtain ⟨field, others, hfield, hothers, rfl⟩ := Field.ofDecls_cons_eq_ok.mp h
    exact .cons hfield (ih hothers)

theorem Mirrors.isItem_eq {parents : List Message} {d : MessageDecl} {m : Message}
    (h : Mirrors lang parents d m) : m.isItem = d.isItem := by
  obtain ⟨-, isItem, -, -, -, -⟩ := h
  exact Bool.eq_iff_iff.mpr (isItem.trans isItemName_iff.symm)

/-- Parting messages and parting their declarations come to the same. -/
theorem forall₂_filter_isItem {parents : List Message} {decls : List MessageDecl}
    {ms : List Message} (keep : Bool → Bool) (h : List.Forall₂ (Mirrors lang parents) decls ms) :
    List.Forall₂ (Mirrors lang parents) (decls.filter (keep ·.isItem))
      (ms.filter (keep ·.isItem)) := by
  induction h with
  | nil => exact .nil
  | @cons d m _ _ first _ ih =>
    have hsame : keep m.isItem = keep d.isItem := by rw [first.isItem_eq]
    rw [List.filter_cons, List.filter_cons, hsame]
    split
    · exact .cons first ih
    · exact ih

theorem mirrors_holding {parents : List Message} {d : MessageDecl} {fields : List Field}
    {below : List Message} (hf : Field.ofDecls lang d.fields = .ok fields)
    (hb : List.Forall₂ (Mirrors lang (parents ++ [d.own parents fields])) d.nested below) :
    Mirrors lang parents d ((d.own parents fields).holding below) := by
  refine .message (marker_dropItemMarker d.name) isItemName_iff (Field.ofDecls_forall₂ hf) rfl ?_ ?_
  · exact mirrorsAll_iff.mpr (forall₂_filter_isItem (!·) hb)
  · exact mirrorsAll_iff.mpr (forall₂_filter_isItem (·) hb)

/-! ## The whole tree -/

theorem ofLevel_mirrors {parents : List Message} {decls : List MessageDecl} {ms : List Message}
    (h : Message.ofLevel lang parents decls = .ok ms) :
    List.Forall₂ (Mirrors lang parents) decls ms := by
  induction decls using MessageDecl.forest_induction generalizing parents ms with
  | nil =>
    cases h
    exact .nil
  | cons d rest nested siblings =>
    obtain ⟨fields, below, others, hf, hb, ho, rfl⟩ := Message.ofLevel_cons_eq_ok.mp h
    exact .cons (mirrors_holding hf (nested hb)) (siblings ho)

/-- What lies at the position of a declaration stands for it. -/
theorem descriptor?_mirrors {parents : List Message} {decls : List MessageDecl} {ms : List Message}
    (h : Message.ofLevel lang parents decls = .ok ms) {p : List Nat} {above : List MessageDecl}
    {d : MessageDecl} (hchain : chain? decls p = some (above ++ [d])) :
    ∃ m, descriptor? decls ms p = some m ∧ Mirrors lang m.parents d m := by
  obtain ⟨outer, m, hbuilt, hat, -⟩ := descriptor?_built h hchain
  obtain ⟨fields, below, hf, hb, rfl⟩ := Message.ofDecl_eq_ok.mp hbuilt
  exact ⟨_, hat, mirrors_holding hf (ofLevel_mirrors hb)⟩

/-- A level that is built has one message for every declaration, and everything nested in a message
stands for what is nested in its declaration. At every position lies the message of the declaration
there; around it are the given parents and then the messages at the beginnings of the position, each
less what is nested in it. So it lies as deep as there are parents and declarations around it. -/
theorem built_tree_mirrors {parents : List Message} {decls : List MessageDecl} {ms : List Message}
    (h : Message.ofLevel lang parents decls = .ok ms) :
    List.Forall₂ (Mirrors lang parents) decls ms ∧
      ∀ p above d, chain? decls p = some (above ++ [d]) →
        ∃ around m, descriptor? decls ms p = some m ∧ Mirrors lang (parents ++ around) d m ∧
          m.depth = parents.length + above.length ∧
          ∀ i, i < above.length →
            around[i]? = (descriptor? decls ms (p.take (i + 1))).map Message.emptied := by
  refine ⟨ofLevel_mirrors h, fun p above d hchain => ?_⟩
  obtain ⟨around, m, hbuilt, hat, hnames, hsnapshots⟩ := descriptor?_around h hchain
  obtain ⟨fields, below, hf, hb, rfl⟩ := Message.ofDecl_eq_ok.mp hbuilt
  have hlen : around.length = above.length := by simpa using congrArg List.length hnames
  refine ⟨around, _, hat, mirrors_holding hf (ofLevel_mirrors hb), ?_, hsnapshots⟩
  rw [Message.depth, Message.holding_own_parents, List.length_append, hlen]

/-- Below a shop the tax of a line lies three levels deep, with the item above it as a parent. -/
theorem orders_mirrored :
    ∃ ms around m, Message.ofLevel .go [{ name := "Shop" }] MessageDecl.orders = .ok ms ∧
      List.Forall₂ (Mirrors .go [{ name := "Shop" }]) MessageDecl.orders ms ∧
      descriptor? MessageDecl.orders ms [0, 0, 0] = some m ∧
      Mirrors .go ([{ name := "Shop" }] ++ around) { name? := some "Tax" } m ∧ m.depth = 3 ∧
      m.parents.map (·.name) = ["Shop", "Order", "Line"] := by
  obtain ⟨ms, hms⟩ : ∃ ms, Message.ofLevel .go [{ name := "Shop" }] MessageDecl.orders = .ok ms :=
    ⟨_, rfl⟩
  obtain ⟨hall, hat⟩ := built_tree_mirrors hms
  obtain ⟨around, m, hm, hmirrors, hdepth, -⟩ := hat [0, 0, 0] [_, _] _ rfl
  refine ⟨ms, around, m, hms, hall, hm, hmirrors, hdepth, ?_⟩
  cases hms
  cases hm
  rfl

end Stencil
