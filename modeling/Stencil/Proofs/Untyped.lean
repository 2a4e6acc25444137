import Stencil.Model.Link
import Stencil.Proofs.Descriptor

/-!
# Stencil.Proofs.Untyped

Fields that no language has a type for, and the builds that they end.

* `FieldDecl.isUntyped` — a wire type that is unset, unknown or in no lexicon.
* `UntypedAt`           — such a field, by the position of its declaration and its number in it.
* `FirstUntyped`        — the first of them, as declarations are read from top to bottom.

A level that is built has no such field (`Message.ofLevel_typed`), and one that is not fails at the
first of them (`Message.ofLevel_eq_error`). Both are inductions on the forest: a field is untyped in
the first root itself, in what is nested there, or in the roots after it (`UntypedAt.cases_cons`),
and a build looks at the three in this order.
-/

namespace Stencil

namespace FieldDecl

/-- No lexicon has an entry for bytes, enums and groups. -/
def isUntyped (f : FieldDecl) : Bool :=
  match f.wireType? with
  | none | some .bytes | some .enum | some .group => true
  | some _ => false

def typeLabel (f : FieldDecl) : String :=
  match f.wireType? with
  | some type => type.label
  | none => Language.unknownTypeLabel f.type?

end FieldDecl

/-! ## Fields -/

theorem Language.scalar?_eq_none {lang : Language} {type : WireType} (h : type ≠ .message) :
    lang.scalar? type = none ↔ type = .bytes ∨ type = .enum ∨ type = .group := by
  cases lang <;> cases type <;> simp_all [scalar?, WireType.isInteger]

theorem Language.elementType_eq_error {lang : Language} {f : FieldDecl} {u : Unresolved} :
    lang.elementType f = .error u ↔ f.isUntyped = true ∧ u = ⟨f.name, f.typeLabel, lang⟩ := by
  unfold elementType FieldDecl.isUntyped FieldDecl.typeLabel
  cases htype : f.wireType? with
  | none => simp [eq_comm]
  | some type =>
    by_cases hm : type = .message
    · simp [hm]
    · have hnone := @scalar?_eq_none lang type hm
      cases hs : lang.scalar? type with
      | none =>
        rcases hnone.mp hs with rfl | rfl | rfl <;> simp [hs, eq_comm]
      | some name =>
        simp only [hs, reduceCtorEq, false_iff, not_or] at hnone
        cases type <;> simp_all

theorem Field.ofDecl_eq_error {lang : Language} {f : FieldDecl} {u : Unresolved} :
    Field.ofDecl lang f = .error u ↔ f.isUntyped = true ∧ u = ⟨f.name, f.typeLabel, lang⟩ := by
  rw [← Language.elementType_eq_error]
  unfold Field.ofDecl Language.fieldType
  cases lang.elementType f <;> simp

theorem Field.ofDecl_eq_ok {lang : Language} {f : FieldDecl} {field : Field} :
    Field.ofDecl lang f = .ok field ↔
      ∃ typeName, lang.fieldType f = .ok typeName ∧
        field = { name := f.name
                  typeName
                  isRequired := !f.isProto3Optional
                  isOptional := f.isProto3Optional
                  isTimestamp := f.typeName == timestampTypeName
                  isRepeated := f.isRepeated
                  isMessage := f.wireType? == some .message } := by
  unfold ofDecl
  constructor
  · intro h
    split at h
    · cases h
    · rename_i typeName htype
      cases h
      exact ⟨typeName, htype, rfl⟩
  · rintro ⟨typeName, htype, rfl⟩
    rw [htype]

theorem Field.ofDecl_typed {lang : Language} {f : FieldDecl} {field : Field}
    (h : Field.ofDecl lang f = .ok field) : f.isUntyped = false := by
  cases hu : f.isUntyped with
  | false => rfl
  | true =>
    rw [Field.ofDecl_eq_error.mpr ⟨hu, rfl⟩] at h
    cases h

theorem Field.ofDecls_cons_eq_ok {lang : Language} {f : FieldDecl} {rest : List FieldDecl}
    {fields : List Field} :
    Field.ofDecls lang (f :: rest) = .ok fields ↔
      ∃ field others, Field.ofDecl lang f = .ok field ∧ Field.ofDecls lang rest = .ok others ∧
        fields = field :: others := by
  simp only [Field.ofDecls]
  constructor
  · intro h
    split at h
    · cases h
    · rename_i field hfield
      split at h
      · cases h
      · rename_i others hothers
        cases h
        exact ⟨field, others, hfield, hothers, rfl⟩
  · rintro ⟨field, others, hfield, hothers, rfl⟩
    simp only [hfield, hothers]

theorem Field.ofDecls_typed {lang : Language} {decls : List FieldDecl} {fields : List Field}
    (h : Field.ofDecls lang decls = .ok fields) : ∀ f ∈ decls, f.isUntyped = false := by
  induction decls generalizing fields with
  | nil => simp
  | cons f rest ih =>
    obtain ⟨field, others, hfield, hothers, -⟩ := Field.ofDecls_cons_eq_ok.mp h
    exact List.forall_mem_cons.mpr ⟨Field.ofDecl_typed hfield, ih hothers⟩

theorem Field.ofDecls_error {lang : Language} {decls : List FieldDecl} {u : Unresolved}
    (h : Field.ofDecls lang decls = .error u) :
    ∃ (i : Nat) (f : FieldDecl), decls[i]? = some f ∧ f.isUntyped = true ∧
      (∀ (j : Nat) (g : FieldDecl), decls[j]? = some g → g.isUntyped = true → i ≤ j) ∧
      u = ⟨f.name, f.typeLabel, lang⟩ := by
  induction decls with
  | nil => cases h
  | cons f rest ih =>
    simp only [Field.ofDecls] at h
    split at h
    · rename_i u' hfail
      cases h
      obtain ⟨hf, hu⟩ := Field.ofDecl_eq_error.mp hfail
      exact ⟨0, f, rfl, hf, fun j g _ _ => Nat.zero_le j, hu⟩
    · rename_i field hfield
      split at h
      · rename_i u' hfail
        cases h
        obtain ⟨i, g, hg, huntyped, hfirst, hu⟩ := ih hfail
        refine ⟨i + 1, g, hg, huntyped, fun j x hx hxu => ?_, hu⟩
        cases j with
        | zero =>
          cases hx
          rw [Field.ofDecl_typed hfield] at hxu
          cases hxu
        | succ j => exact Nat.succ_le_succ (hfirst j x hx hxu)
      · cases h

/-! ## Declarations -/

open MessageDecl (chain?)

/-- The field of number `i` in the declaration `d` at position `p`, which stands inside `above`.
Nothing is passed over: the way to the position may lead through items. -/
structure UntypedAt (decls : List MessageDecl) (p : List Nat) (i : Nat)
    (above : List MessageDecl) (d : MessageDecl) (f : FieldDecl) : Prop where
  chain : chain? decls p = some (above ++ [d])
  field : d.fields[i]? = some f
  untyped : f.isUntyped = true

/-- Positions come in lexicographic order: a declaration stands before what is nested in it, and
with it before its next sibling. -/
structure FirstUntyped (decls : List MessageDecl) (p : List Nat) (i : Nat)
    (above : List MessageDecl) (d : MessageDecl) (f : FieldDecl) : Prop
    extends UntypedAt decls p i above d f where
  first : ∀ q j above' d' f', UntypedAt decls q j above' d' f' → p < q ∨ p = q ∧ i ≤ j

section

variable {d d' : MessageDecl} {rest above : List MessageDecl} {p q : List Nat} {i : Nat}
  {f : FieldDecl}

theorem not_untypedAt_nil : ¬ UntypedAt [] p i above d f := by
  rintro ⟨hchain, -, -⟩
  cases p with
  | nil => simp [chain?] at hchain
  | cons k q => cases hchain

theorem untypedAt_root (hf : d.fields[i]? = some f) (hu : f.isUntyped = true) :
    UntypedAt (d :: rest) [0] i [] d f :=
  ⟨rfl, hf, hu⟩

theorem UntypedAt.nested (h : UntypedAt d.nested q i above d' f) :
    UntypedAt (d :: rest) (0 :: q) i (d :: above) d' f :=
  ⟨by simp [chain?, h.chain], h.field, h.untyped⟩

theorem UntypedAt.sibling {k : Nat} (h : UntypedAt rest (k :: q) i above d' f) :
    UntypedAt (d :: rest) ((k + 1) :: q) i above d' f :=
  ⟨h.chain, h.field, h.untyped⟩

theorem UntypedAt.ne_nil (h : UntypedAt rest p i above d f) : ∃ k q, p = k :: q := by
  cases p with
  | nil => simpa [chain?] using h.chain
  | cons k q => exact ⟨k, q, rfl⟩

theorem UntypedAt.cases_cons (h : UntypedAt (d :: rest) p i above d' f) :
    (p = [0] ∧ d.fields[i]? = some f ∧ f.isUntyped = true) ∨
      (∃ k q above', p = 0 :: k :: q ∧ UntypedAt d.nested (k :: q) i above' d' f) ∨
      ∃ k q, p = (k + 1) :: q ∧ UntypedAt rest (k :: q) i above d' f := by
  obtain ⟨k, q, rfl⟩ := h.ne_nil
  cases k with
  | succ k => exact .inr (.inr ⟨k, q, rfl, h.chain, h.field, h.untyped⟩)
  | zero =>
    obtain ⟨ds, hds, hcons⟩ := Option.map_eq_some_iff.mp h.chain
    cases above with
    | nil =>
      obtain ⟨rfl, rfl⟩ := List.cons.inj hcons
      have hq : q = [] := List.eq_nil_of_length_eq_zero (MessageDecl.length_chain? hds).symm
      exact .inl ⟨by rw [hq], h.field, h.untyped⟩
    | cons a above =>
      obtain ⟨rfl, rfl⟩ := List.cons.inj hcons
      have hat : UntypedAt d.nested q i above d' f := ⟨hds, h.field, h.untyped⟩
      obtain ⟨k, q, rfl⟩ := hat.ne_nil
      exact .inr (.inl ⟨k, q, above, rfl, hat⟩)

theorem firstUntyped_root (hf : d.fields[i]? = some f) (hu : f.isUntyped = true)
    (hfirst : ∀ (j : Nat) (g : FieldDecl), d.fields[j]? = some g → g.isUntyped = true → i ≤ j) :
    FirstUntyped (d :: rest) [0] i [] d f := by
  refine ⟨untypedAt_root hf hu, ?_⟩
  intro q j above' e g hat
  obtain ⟨rfl, hg, hgu⟩ | ⟨k, q, _, rfl, -⟩ | ⟨k, q, rfl, -⟩ := hat.cases_cons
  · exact .inr ⟨rfl, hfirst j g hg hgu⟩
  · exact .inl (List.cons_lt_cons_iff.mpr (.inr ⟨rfl, List.nil_lt_cons k q⟩))
  · exact .inl (List.cons_lt_cons_iff.mpr (.inl (Nat.succ_pos k)))

theorem FirstUntyped.nested (h : FirstUntyped d.nested q i above d' f)
    (hd : ∀ g ∈ d.fields, g.isUntyped = false) :
    FirstUntyped (d :: rest) (0 :: q) i (d :: above) d' f := by
  refine ⟨h.toUntypedAt.nested, ?_⟩
  intro q' j above' e g hat
  obtain ⟨-, hg, hgu⟩ | ⟨k, q', _, rfl, hin⟩ | ⟨k, q', rfl, -⟩ := hat.cases_cons
  · rw [hd g (List.mem_of_getElem? hg)] at hgu
    cases hgu
  · rcases h.first _ _ _ _ _ hin with hlt | ⟨rfl, hle⟩
    · exact .inl (List.cons_lt_cons_iff.mpr (.inr ⟨rfl, hlt⟩))
    · exact .inr ⟨rfl, hle⟩
  · exact .inl (List.cons_lt_cons_iff.mpr (.inl (Nat.succ_pos k)))

theorem FirstUntyped.sibling {k : Nat} (h : FirstUntyped rest (k :: q) i above d' f)
    (hd : ∀ g ∈ d.fields, g.isUntyped = false)
    (hnested : ∀ p j above' e g, ¬ UntypedAt d.nested p j above' e g) :
    FirstUntyped (d :: rest) ((k + 1) :: q) i above d' f := by
  refine ⟨h.toUntypedAt.sibling, ?_⟩
  intro q' j above' e g hat
  obtain ⟨-, hg, hgu⟩ | ⟨l, q', _, rfl, hin⟩ | ⟨l, q', rfl, hin⟩ := hat.cases_cons
  · rw [hd g (List.mem_of_getElem? hg)] at hgu
    cases hgu
  · exact absurd hin (hnested _ _ _ _ _)
  · rcases h.first _ _ _ _ _ hin with hlt | ⟨heq, hle⟩
    · refine .inl (List.cons_lt_cons_iff.mpr ?_)
      exact (List.cons_lt_cons_iff.mp hlt).imp Nat.succ_lt_succ (.imp_left (congrArg _))
    · obtain ⟨rfl, rfl⟩ := List.cons.inj heq
      exact .inr ⟨rfl, hle⟩

end

theorem FirstUntyped.unique {decls above above' : List MessageDecl} {p q : List Nat} {i j : Nat}
    {d d' : MessageDecl} {f f' : FieldDecl} (h : FirstUntyped decls p i above d f)
    (h' : FirstUntyped decls q j above' d' f') : above = above' ∧ d = d' ∧ f = f' := by
  have hplace : p = q ∧ i = j := by
    rcases h.first q j above' d' f' h'.toUntypedAt with hlt | ⟨rfl, hle⟩
    · rcases h'.first p i above d f h.toUntypedAt with hgt | ⟨rfl, -⟩
      · exact absurd (List.lt_trans hlt hgt) (List.lt_irrefl p)
      · exact absurd hlt (List.lt_irrefl q)
    · rcases h'.first p i above d f h.toUntypedAt with hgt | ⟨-, hge⟩
      · exact absurd hgt (List.lt_irrefl p)
      · exact ⟨rfl, Nat.le_antisymm hle hge⟩
  obtain ⟨rfl, rfl⟩ := hplace
  have hchain := Option.some.inj (h.chain.symm.trans h'.chain)
  obtain ⟨rfl, hlast⟩ := List.append_inj' hchain rfl
  obtain rfl := (List.cons.inj hlast).1
  exact ⟨rfl, rfl, Option.some.inj (h.field.symm.trans h'.field)⟩

/-! ## Building a level -/

theorem Message.ofLevel_typed {lang : Language} {parents : List Message}
    {decls : List MessageDecl} {ms : List Message}
    (h : Message.ofLevel lang parents decls = .ok ms) {p : List Nat} {i : Nat}
    {above : List MessageDecl} {d : MessageDecl} {f : FieldDecl} :
    ¬ UntypedAt decls p i above d f := by
  induction decls using MessageDecl.forest_induction generalizing parents ms p above with
  | nil => exact not_untypedAt_nil
  | cons root rest nested siblings =>
    obtain ⟨fields, below, others, hf, hb, ho, -⟩ := Message.ofLevel_cons_eq_ok.mp h
    intro hat
    obtain ⟨-, hfield, hu⟩ | ⟨k, q, above', -, hat⟩ | ⟨k, q, -, hat⟩ := hat.cases_cons
    · rw [Field.ofDecls_typed hf f (List.mem_of_getElem? hfield)] at hu
      cases hu
    · exact nested hb hat
    · exact siblings ho hat

theorem Message.ofLevel_cons_eq_error {lang : Language} {parents : List Message}
    {d : MessageDecl} {rest : List MessageDecl} {e : BuildError}
    (h : Message.ofLevel lang parents (d :: rest) = .error e) :
    (∃ u, Field.ofDecls lang d.fields = .error u ∧
        e = ⟨dotted (parents.map (·.name) ++ [d.name]), u⟩) ∨
      ∃ fields, Field.ofDecls lang d.fields = .ok fields ∧
        (Message.ofLevel lang (parents ++ [d.own parents fields]) d.nested = .error e ∨
          ∃ below, Message.ofLevel lang (parents ++ [d.own parents fields]) d.nested = .ok below ∧
            Message.ofLevel lang parents rest = .error e) := by
  simp only [Message.ofLevel, Message.ofDecl_eq] at h
  cases hf : Field.ofDecls lang d.fields with
  | error u =>
    simp only [hf, Except.error.injEq] at h
    exact .inl ⟨u, rfl, h.symm⟩
  | ok fields =>
    refine .inr ⟨fields, rfl, ?_⟩
    cases hb : Message.ofLevel lang (parents ++ [d.own parents fields]) d.nested with
    | error e' =>
      simp only [hf, hb, Except.error.injEq] at h
      exact .inl (congrArg Except.error h)
    | ok below =>
      simp only [hf, hb] at h
      refine .inr ⟨below, rfl, ?_⟩
      split at h
      · rename_i e' ho
        rw [ho, h]
      · cases h

/-- A level that is not built fails at its first untyped field. The error names the declaration
through the names around it as they show in messages, without the marker of an item; its own name
is given as it is declared. -/
theorem Message.ofLevel_error {lang : Language} {parents : List Message}
    {decls : List MessageDecl} {e : BuildError}
    (h : Message.ofLevel lang parents decls = .error e) :
    ∃ p i above d f, FirstUntyped decls p i above d f ∧
      e = ⟨dotted (parents.map (·.name) ++ above.map (dropItemMarker ·.name) ++ [d.name]),
        ⟨f.name, f.typeLabel, lang⟩⟩ := by
  induction decls using MessageDecl.forest_induction generalizing parents with
  | nil => cases h
  | cons root rest nested siblings =>
    obtain ⟨u, hfail, rfl⟩ | ⟨fields, hf, hfail | ⟨below, hb, hfail⟩⟩ :=
      Message.ofLevel_cons_eq_error h
    · obtain ⟨i, f, hf, hu, hfirst, rfl⟩ := Field.ofDecls_error hfail
      exact ⟨[0], i, [], root, f, firstUntyped_root hf hu hfirst, by simp⟩
    · obtain ⟨p, i, above, d, f, hat, rfl⟩ := nested hfail
      refine ⟨0 :: p, i, root :: above, d, f, hat.nested (Field.ofDecls_typed hf), ?_⟩
      simp [MessageDecl.own]
    · obtain ⟨p, i, above, d, f, hat, rfl⟩ := siblings hfail
      obtain ⟨k, p, rfl⟩ := hat.ne_nil
      refine ⟨(k + 1) :: p, i, above, d, f, hat.sibling (Field.ofDecls_typed hf) ?_, rfl⟩
      exact fun _ _ _ _ _ => Message.ofLevel_typed hb

theorem Message.ofLevel_eq_error {lang : Language} {parents : List Message}
    {decls : List MessageDecl} {e : BuildError} :
    Message.ofLevel lang parents decls = .error e ↔
      ∃ p i above d f, FirstUntyped decls p i above d f ∧
        e = ⟨dotted (parents.map (·.name) ++ above.map (dropItemMarker ·.name) ++ [d.name]),
          ⟨f.name, f.typeLabel, lang⟩⟩ := by
  refine ⟨Message.ofLevel_error, ?_⟩
  rintro ⟨p, i, above, d, f, hat, rfl⟩
  cases h : Message.ofLevel lang parents decls with
  | ok ms => exact absurd hat.toUntypedAt (Message.ofLevel_typed h)
  | error e =>
    obtain ⟨p', i', above', d', f', hat', rfl⟩ := Message.ofLevel_error h
    obtain ⟨rfl, rfl, rfl⟩ := hat.unique hat'
    rfl

/-! ## Building a file -/

theorem Builder.messages_eq_error {b : Builder} {decls : List MessageDecl} {e : BuildError} :
    b.messages decls = .error e ↔ Message.ofLevel b.language [] decls = .error e := by
  unfold Builder.messages
  cases Message.ofLevel b.language [] decls <;> simp

theorem Builder.model_eq_error {b : Builder} {file : FileDecl} {e : BuildError} :
    b.model file = .error e ↔ Message.ofLevel b.language [] file.messages = .error e := by
  rw [← Builder.messages_eq_error]
  unfold Builder.model
  cases b.messages file.messages <;> simp

/-- A build fails exactly if some field of the forest has no type: of any declaration, an item or
not, at any depth. It fails at the first one, whatever it would list of the forest and whatever
services there are. -/
theorem fails_at_first_untyped (b : Builder) (decls : List MessageDecl) :
    ((∃ e, b.messages decls = .error e) ↔ ∃ p i above d f, UntypedAt decls p i above d f) ∧
      (∀ e, b.messages decls = .error e ↔
        ∃ p i above d f, FirstUntyped decls p i above d f ∧
          e = ⟨dotted (above.map (dropItemMarker ·.name) ++ [d.name]),
            ⟨f.name, f.typeLabel, b.language⟩⟩) ∧
      ∀ name? package? services e,
        b.model ⟨name?, package?, decls, services⟩ = .error e ↔ b.messages decls = .error e := by
  refine ⟨⟨?_, ?_⟩, fun e => ?_, fun name? package? services e => ?_⟩
  · rintro ⟨e, he⟩
    obtain ⟨p, i, above, d, f, hat, -⟩ :=
      Message.ofLevel_error (Builder.messages_eq_error.mp he)
    exact ⟨p, i, above, d, f, hat.toUntypedAt⟩
  · rintro ⟨p, i, above, d, f, hat⟩
    cases h : Message.ofLevel b.language [] decls with
    | error e => exact ⟨e, Builder.messages_eq_error.mpr h⟩
    | ok ms => exact absurd hat (Message.ofLevel_typed h)
  · rw [Builder.messages_eq_error, Message.ofLevel_eq_error]
    rfl
  · rw [Builder.model_eq_error, Builder.messages_eq_error]

/-- The first untyped field stands in an item inside an item; the names around it have lost their
marker, its own has not. -/
example :
    Builder.messages ⟨.dart, false⟩
      [{ name? := some "Order"
         fields := [{ name? := some "total", type? := some 1 }]
         nested := [{ name? := some "__Line"
                      nested := [{ name? := some "__Tax"
                                   fields := [{ name? := some "kind", type? := some 14 }] }] },
                    { name? := some "Note", fields := [{ name? := some "text" }] }] }] =
      .error ⟨"Order.Line.__Tax", ⟨"kind", "enum", .dart⟩⟩ := by
  rfl

end Stencil
