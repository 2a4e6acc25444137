import Stencil.Proofs.FieldType
import Stencil.Proofs.Linking
import Stencil.Proofs.Pieces

/-!
# Stencil.Proofs.Reference

Fields that refer to a message, against the message.

A reference is read from its end: what stands behind the last dot, less an item marker. A message is
named on the way down: its declared name, less an item marker. `bareTypeName_declaredType` says that
both leave the same of a fully qualified name, whatever its scopes are, and
`reference_names_message` that the type name of a field is thereby the name of the message built
from the declaration that the field refers to.
-/

namespace Stencil

open MessageDecl (chain?)

/-- The package may hold dots, and so may the names of the declarations around the last. -/
theorem declaredType_concat (package : String) (above : List MessageDecl) (d : MessageDecl) :
    ∃ scope, (declaredType package (above ++ [d])).toList = scope ++ '.' :: d.name.toList := by
  rw [declaredType, List.map_append, List.map_singleton]
  cases above with
  | nil =>
    by_cases hp : package.isEmpty = true
    · exact ⟨[], by simp [hp, dotted]⟩
    · exact ⟨'.' :: package.toList, by simp [hp, dotted]⟩
  | cons a above =>
    have hnames : (a :: above).map (·.name) ≠ [] := by simp
    have hlast : [d.name] ≠ [] := by simp
    rw [dotted, String.intercalate_append_of_ne_nil hnames hlast, String.intercalate_singleton]
    exact ⟨("." ++ (if package.isEmpty then "" else package ++ ".") ++
      dotted ((a :: above).map (·.name))).toList, by simp [dotted]⟩

theorem bareTypeName_declaredType (package : String) (above : List MessageDecl) {d : MessageDecl}
    (hplain : '.' ∉ d.name.toList) :
    bareTypeName (declaredType package (above ++ [d])) = dropItemMarker d.name := by
  obtain ⟨scope, hscope⟩ := declaredType_concat package above d
  rw [bareTypeName, hscope, Text.afterLast_append scope hplain, String.ofList_toList]

/-- A message field with the fully qualified name of a declaration has as its type the name of the
message built from that declaration: of an item or not, at any depth, in the language of the message
or in another. Of all names only that of the declaration has to be free of dots. -/
theorem reference_names_message {lang : Language} {decls : List MessageDecl} {roots : List Message}
    (h : Message.ofLevel lang [] decls = .ok roots) {p : List Nat} {above : List MessageDecl}
    {d : MessageDecl} (hchain : chain? decls p = some (above ++ [d]))
    (hplain : '.' ∉ d.name.toList) :
    ∃ outer m, Message.ofDecl lang outer d = .ok m ∧ descriptor? decls roots p = some m ∧
      ∀ (target : Language) (package : String) (f : FieldDecl), f.wireType? = some .message →
        f.typeName = declaredType package (above ++ [d]) → f.typeName ≠ timestampTypeName →
        target.fieldType f = .ok (if f.isRepeated then target.wrap m.name else m.name) := by
  obtain ⟨outer, m, hbuilt, hat, -⟩ := descriptor?_built h hchain
  refine ⟨outer, m, hbuilt, hat, fun target package f typed refers other => ?_⟩
  obtain ⟨fields, below, -, -, rfl⟩ := Message.ofDecl_eq_ok.mp hbuilt
  have hname : ((d.own outer fields).holding below).name = dropItemMarker d.name := rfl
  have hbare : bareTypeName f.typeName = dropItemMarker d.name := by
    rw [refers, bareTypeName_declaredType package above hplain]
  exact Language.fieldType_eq_ok.mpr ⟨.message, _, .message typed other, by rw [hbare, hname]⟩

def linesField : FieldDecl :=
  { name? := some "lines", label? := some 3, type? := some 11,
    typeName? := some ".shop.v1.Order.__Line" }

/-- The lines of an order refer to an item, which has lost its marker here and there. -/
theorem lines_refer_to_item :
    ∃ roots m, Message.ofLevel .go [] MessageDecl.orders = .ok roots ∧
      descriptor? MessageDecl.orders roots [0, 0] = some m ∧ m.isItem = true ∧ m.name = "Line" ∧
      Language.dart.fieldType linesField = .ok (Language.dart.wrap m.name) ∧
      Language.dart.wrap m.name = "List<Line>" := by
  obtain ⟨roots, hroots⟩ : ∃ roots, Message.ofLevel .go [] MessageDecl.orders = .ok roots :=
    ⟨_, rfl⟩
  have hchain : chain? MessageDecl.orders [0, 0] = some ([_] ++ [_]) := rfl
  obtain ⟨outer, m, -, hat, htype⟩ := reference_names_message hroots hchain (by decide)
  have hlines := htype .dart "shop.v1" linesField rfl (by rfl) (by decide)
  cases hroots
  cases hat
  exact ⟨_, _, rfl, rfl, rfl, rfl, hlines, by rfl⟩

end Stencil
