import Stencil.Proofs.Descriptor

/-!
# Stencil.Proofs.Lineage

What a built message says about the messages around it.

* `IsLineage`       — enclosing messages as they stand before their own nested messages are built.
* `Message.emptied` — a message as those nested in it keep it.
* `Message.Proper`  — a message that may be listed: no item, in no item, with a proper lineage.

`families_proper` shows that whatever a level has outside its items is proper. `descriptor?_around`
finds the message at a position and the messages around it, `descriptor?_built` the names of these,
and `filter_depth_families` finds the level itself again among its families.
-/

namespace Stencil

/-- Every enclosing message has those before it as its own parents and holds nothing yet. -/
def IsLineage (parents : List Message) : Prop :=
  ∀ i q, parents[i]? = some q → q.parents = parents.take i ∧ q.children = [] ∧ q.items = []

theorem isLineage_nil : IsLineage [] := by
  intro i q h
  cases h

theorem IsLineage.concat {parents : List Message} (h : IsLineage parents) (d : MessageDecl)
    (fields : List Field) : IsLineage (parents ++ [d.own parents fields]) := by
  intro i q hq
  rcases Nat.lt_trichotomy i parents.length with hi | rfl | hi
  · rw [List.getElem?_append_left hi] at hq
    rw [List.take_append_of_le_length (Nat.le_of_lt hi)]
    exact h i q hq
  · rw [List.getElem?_concat_length] at hq
    cases hq
    exact ⟨by simp [MessageDecl.own], rfl, rfl⟩
  · rw [List.getElem?_eq_none (by rw [List.length_append]; exact hi)] at hq
    cases hq

/-- A message without what is nested in it. -/
def Message.emptied (m : Message) : Message :=
  { m with children := [], items := [] }

structure Message.Proper (m : Message) : Prop where
  notItem : m.isItem = false
  notInItem : ∀ q ∈ m.parents, q.isItem = false
  lineage : IsLineage m.parents

theorem mem_families_cons {m x : Message} {rest : List Message} :
    x ∈ Message.families (m :: rest) ↔
      x = m ∨ x ∈ Message.families m.children ∨ x ∈ Message.families rest := by
  rw [Message.families, Message.family_eq, List.cons_append, List.mem_cons, List.mem_append]

/-- The families outside the items of a level, for a property of messages that the messages of
every level below have. -/
theorem forall_families {lang : Language} {P : Message → Prop} {Q : List Message → Prop}
    (own : ∀ parents d fields below, Q parents → d.isItem = false →
      P ((MessageDecl.own d parents fields).holding below))
    (deeper : ∀ parents d fields, Q parents → d.isItem = false →
      Q (parents ++ [MessageDecl.own d parents fields]))
    {parents : List Message} {decls : List MessageDecl} {ms : List Message}
    (h : Message.ofLevel lang parents decls = .ok ms) (hQ : Q parents) :
    ∀ m ∈ Message.families (ms.filter (!·.isItem)), P m := by
  induction decls using MessageDecl.forest_induction generalizing parents ms with
  | nil => cases h; simp [Message.families]
  | cons d rest nested siblings =>
    obtain ⟨fields, below, others, -, hb, ho, rfl⟩ := Message.ofLevel_cons_eq_ok.mp h
    cases hd : d.isItem with
    | true =>
      rw [List.filter_cons_of_neg (by simp [hd])]
      exact siblings ho hQ
    | false =>
      rw [List.filter_cons_of_pos (by simp [hd])]
      intro m hm
      rcases mem_families_cons.mp hm with rfl | hm | hm
      · exact own parents d fields below hQ hd
      · exact nested hb (deeper parents d fields hQ hd) m hm
      · exact siblings ho hQ m hm

theorem families_proper {lang : Language} {decls : List MessageDecl} {roots : List Message}
    (h : Message.ofLevel lang [] decls = .ok roots) :
    ∀ m ∈ Message.families (roots.filter (!·.isItem)), m.Proper := by
  refine forall_families (Q := fun parents => IsLineage parents ∧ ∀ q ∈ parents, q.isItem = false)
    ?_ ?_ h ⟨isLineage_nil, by simp⟩
  · rintro parents d fields below ⟨hl, hi⟩ hd
    exact ⟨hd, hi, hl⟩
  · rintro parents d fields ⟨hl, hi⟩ hd
    refine ⟨hl.concat d fields, fun q hq => ?_⟩
    rcases List.mem_append.mp hq with hq | hq
    · exact hi q hq
    · rw [List.mem_singleton.mp hq]
      exact hd

/-! ## Depth -/

theorem le_depth_families {lang : Language} {parents : List Message} {decls : List MessageDecl}
    {ms : List Message} (h : Message.ofLevel lang parents decls = .ok ms) :
    ∀ m ∈ Message.families (ms.filter (!·.isItem)), parents.length ≤ m.depth := by
  refine forall_families (Q := fun above => parents.length ≤ above.length) ?_ ?_ h (Nat.le_refl _)
  · intro above d fields below hle _
    exact hle
  · intro above d fields hle _
    rw [List.length_append]
    exact Nat.le_trans hle (Nat.le_add_right _ _)

/-- Among its families the messages of a level are those that lie no deeper than the level. -/
theorem filter_depth_families {lang : Language} {parents : List Message}
    {decls : List MessageDecl} {ms : List Message}
    (h : Message.ofLevel lang parents decls = .ok ms) :
    (Message.families (ms.filter (!·.isItem))).filter (·.depth ≤ parents.length) =
      ms.filter (!·.isItem) := by
  induction decls generalizing ms with
  | nil => cases h; rfl
  | cons d rest ih =>
    obtain ⟨fields, below, others, -, hb, ho, rfl⟩ := Message.ofLevel_cons_eq_ok.mp h
    cases hd : d.isItem with
    | true =>
      rw [List.filter_cons_of_neg (by simp [hd])]
      exact ih ho
    | false =>
      have hdeep : (Message.families (below.filter (!·.isItem))).filter
          (·.depth ≤ parents.length) = [] := by
        refine List.filter_eq_nil_iff.mpr fun m hm => ?_
        have hle := le_depth_families hb m hm
        rw [List.length_append, List.length_singleton] at hle
        simp only [decide_eq_true_eq]
        omega
      rw [List.filter_cons_of_pos (by simp [hd]),
        Message.families, Message.family_eq, List.cons_append, List.filter_cons_of_pos,
        List.filter_append, ih ho]
      · exact congrArg (_ :: · ++ _) hdeep
      · simp [Message.depth, Message.holding, MessageDecl.own]

/-! ## Names -/

theorem Message.ofLevel_at {lang : Language} {parents : List Message} {decls : List MessageDecl}
    {ms : List Message} (h : Message.ofLevel lang parents decls = .ok ms) {i : Nat}
    {d : MessageDecl} (hd : decls[i]? = some d) :
    ∃ fields below, Field.ofDecls lang d.fields = .ok fields ∧
      Message.ofLevel lang (parents ++ [d.own parents fields]) d.nested = .ok below ∧
      ms[i]? = some ((d.own parents fields).holding below) := by
  induction decls generalizing ms i with
  | nil => cases hd
  | cons e rest ih =>
    obtain ⟨fields, below, others, hf, hb, ho, rfl⟩ := Message.ofLevel_cons_eq_ok.mp h
    cases i with
    | zero => cases hd; exact ⟨fields, below, hf, hb, rfl⟩
    | succ i => exact ih ho hd

/-- At the position of a declaration stands the message built from it. Around it, behind the given
parents, are the messages at the beginnings of the position, before anything was nested in them. -/
theorem descriptor?_around {lang : Language} {parents : List Message} {decls : List MessageDecl}
    {ms : List Message} (h : Message.ofLevel lang parents decls = .ok ms) {p : List Nat}
    {above : List MessageDecl} {d : MessageDecl}
    (hchain : MessageDecl.chain? decls p = some (above ++ [d])) :
    ∃ around m, Message.ofDecl lang (parents ++ around) d = .ok m ∧
      descriptor? decls ms p = some m ∧
      around.map (·.name) = above.map (dropItemMarker ·.name) ∧
      ∀ i, i < above.length →
        around[i]? = (descriptor? decls ms (p.take (i + 1))).map Message.emptied := by
  induction p generalizing parents decls ms above with
  | nil => simp [MessageDecl.chain?] at hchain
  | cons i q ih =>
    obtain ⟨e, he, hq⟩ := Option.bind_eq_some_iff.mp hchain
    obtain ⟨ds, hds, hcons⟩ := Option.map_eq_some_iff.mp hq
    obtain ⟨fields, below, hf, hb, hm⟩ := Message.ofLevel_at h he
    have hat := fun q => descriptor?_cons (q := q) he hm rfl (Message.inOrder_holding _ hb)
    cases above with
    | nil =>
      obtain ⟨rfl, rfl⟩ := List.cons.inj hcons
      have hnil : q = [] := List.eq_nil_of_length_eq_zero (MessageDecl.length_chain? hds).symm
      refine ⟨[], _, Message.ofDecl_eq_ok.mpr ⟨fields, below, ?_, ?_, rfl⟩, ?_, rfl, by simp⟩
      · exact hf
      · rw [List.append_nil]
        exact hb
      · rw [hat, if_pos hnil, List.append_nil]
    | cons a above =>
      obtain ⟨rfl, rfl⟩ := List.cons.inj hcons
      have hne : q ≠ [] := by
        rintro rfl
        simp [MessageDecl.chain?] at hds
      obtain ⟨around, m, hbuilt, hm', hnames, hsnap⟩ := ih hb hds
      rw [List.append_assoc, List.singleton_append] at hbuilt
      refine ⟨e.own parents fields :: around, m, hbuilt, by rw [hat, if_neg hne, hm'], ?_, ?_⟩
      · rw [List.map_cons, List.map_cons, hnames]
        rfl
      · intro k hk
        cases k with
        | zero =>
          rw [List.take_succ_cons, List.take_zero, hat, if_pos rfl]
          rfl
        | succ k =>
          have htake : q.take (k + 1) ≠ [] := by simp [hne]
          rw [List.take_succ_cons, hat, if_neg htake, List.getElem?_cons_succ]
          exact hsnap k (Nat.lt_of_succ_lt_succ hk)

/-- The messages around it have the names of the declarations on the way there. -/
theorem descriptor?_built {lang : Language} {parents : List Message} {decls : List MessageDecl}
    {ms : List Message} (h : Message.ofLevel lang parents decls = .ok ms) {p : List Nat}
    {above : List MessageDecl} {d : MessageDecl}
    (hchain : MessageDecl.chain? decls p = some (above ++ [d])) :
    ∃ outer m, Message.ofDecl lang outer d = .ok m ∧ descriptor? decls ms p = some m ∧
      outer.map (·.name) = parents.map (·.name) ++ above.map (dropItemMarker ·.name) := by
  obtain ⟨around, m, hbuilt, hat, hnames, -⟩ := descriptor?_around h hchain
  exact ⟨parents ++ around, m, hbuilt, hat, by rw [List.map_append, hnames]⟩

end Stencil
