import Mathlib.Data.List.Basic
import Stencil.Proofs.FieldType
import Stencil.Proofs.Pieces

/-!
# Stencil.Proofs.Wrapping

Repeated fields, against single ones of the same type.

* `Language.opening`, `Language.closing` — what a collection has around its element type.
* `FieldDecl.labelled` — a field under another label.

A collection is made by putting a text in the place of the placeholder. As the placeholder stands in
the form once, and what is put in is not searched, this is the same as putting the form around it
(`Language.wrap_eq`), whatever is in it. `repeated_wraps_once` says so of fields.
-/

namespace Stencil

namespace Language

variable {lang : Language}

/-! ## The form of a collection -/

def opening : Language → String
  | typescript => ""
  | dart => "List<"
  | go => "[]"

def closing : Language → String
  | typescript => "[]"
  | dart => ">"
  | go => ""

theorem collectionForm_eq (lang : Language) :
    lang.collectionForm = lang.opening ++ placeholder ++ lang.closing := by
  cases lang <;> rfl

theorem notMem_opening (lang : Language) : '\x7b' ∉ lang.opening.toList := by
  cases lang <;> decide

theorem notMem_closing (lang : Language) : '\x7b' ∉ '\x7d' :: lang.closing.toList := by
  cases lang <;> decide

theorem toList_form (before after : String) :
    (before ++ placeholder ++ after).toList =
      before.toList ++ '\x7b' :: '\x7d' :: after.toList := by
  rw [String.toList_append, String.toList_append, List.append_assoc]
  rfl

/-- There is one placeholder in the form. -/
theorem collectionForm_eq_iff {before after : String} :
    lang.collectionForm = before ++ placeholder ++ after ↔
      before = lang.opening ∧ after = lang.closing := by
  constructor
  · intro h
    rw [collectionForm_eq, ← String.toList_inj, toList_form, toList_form] at h
    obtain ⟨hbefore, -, hafter⟩ :=
      (List.append_cons_inj_of_notMem (notMem_opening lang) (notMem_closing lang)).mp h
    exact ⟨String.toList_inj.mp hbefore.symm, String.toList_inj.mp (List.cons.inj hafter).2.symm⟩
  · rintro ⟨rfl, rfl⟩
    exact collectionForm_eq lang

theorem wrap_eq (lang : Language) (element : String) :
    lang.wrap element = lang.opening ++ element ++ lang.closing := by
  rw [wrap, collectionForm_eq, ← String.toList_inj, String.toList_ofList]
  simp only [String.toList_append]
  exact Text.replaceFirst_append (notMem_opening lang) _ _ _

theorem wrap_injective (lang : Language) : Function.Injective lang.wrap := by
  intro a b h
  rwa [wrap_eq, wrap_eq, String.append_left_inj, String.append_right_inj] at h

/-- Collections of collections are made of the same form; a placeholder in an element stays. -/
example : go.wrap (go.wrap "int") = "[][]int" ∧ dart.wrap "\x7b\x7d" = "List<\x7b\x7d>" := by
  decide +kernel

end Language

/-! ## Labels -/

def FieldDecl.labelled (f : FieldDecl) (label? : Option Int) : FieldDecl :=
  { f with label? }

/-- Nothing but the form around the type goes by the label. -/
theorem Language.fieldType_labelled (lang : Language) (f : FieldDecl) (label? : Option Int) :
    lang.fieldType (f.labelled label?) =
      (lang.elementType f).map fun element =>
        if label? = some 3 then lang.wrap element else element := by
  have helement : lang.elementType (f.labelled label?) = lang.elementType f := rfl
  have hrepeated : (f.labelled label?).isRepeated = (label? == some 3) := rfl
  rw [fieldType, helement]
  cases lang.elementType f with
  | error e => rfl
  | ok element => simp [Except.map, hrepeated]

theorem Language.fieldType_repeated (lang : Language) (f : FieldDecl) {other : Option Int}
    (h : other ≠ some 3) :
    lang.fieldType (f.labelled (some 3)) = (lang.fieldType (f.labelled other)).map lang.wrap := by
  rw [fieldType_labelled, fieldType_labelled]
  cases lang.elementType f with
  | error e => rfl
  | ok element => simp [Except.map, h]

/-- Under the label of repeated fields (3) a field has a type just where it has one under any other
label, and fails with the same error elsewhere. The type is then that of the single field with the
form of a collection around it, once, whatever the single type is called. So fields of different
types have different types as repeated ones. -/
theorem repeated_wraps_once (lang : Language) :
    (∀ before after, lang.collectionForm = before ++ Language.placeholder ++ after ↔
        before = lang.opening ∧ after = lang.closing) ∧
      (∀ element, lang.wrap element = lang.opening ++ element ++ lang.closing) ∧
      (∀ (f : FieldDecl) (other : Option Int), other ≠ some 3 →
        (∃ e, lang.fieldType (f.labelled other) = .error e ∧
          lang.fieldType (f.labelled (some 3)) = .error e) ∨
        ∃ element, lang.fieldType (f.labelled other) = .ok element ∧
          lang.fieldType (f.labelled (some 3)) = .ok (lang.opening ++ element ++ lang.closing)) ∧
      ∀ (f g : FieldDecl) (k l : Option Int) (a b : String), k ≠ some 3 → l ≠ some 3 →
        lang.fieldType (f.labelled k) = .ok a → lang.fieldType (g.labelled l) = .ok b → a ≠ b →
          lang.fieldType (f.labelled (some 3)) ≠ lang.fieldType (g.labelled (some 3)) := by
  refine ⟨fun _ _ => Language.collectionForm_eq_iff, lang.wrap_eq, ?_, ?_⟩
  · intro f other hother
    rw [lang.fieldType_repeated f hother]
    cases lang.fieldType (f.labelled other) with
    | error e => exact .inl ⟨e, rfl, rfl⟩
    | ok element => exact .inr ⟨element, rfl, congrArg Except.ok (lang.wrap_eq element)⟩
  · intro f g k l a b hk hl hf hg hne heq
    rw [lang.fieldType_repeated f hk, lang.fieldType_repeated g hl, hf, hg] at heq
    exact hne (lang.wrap_injective (Except.ok.inj heq))

end Stencil
