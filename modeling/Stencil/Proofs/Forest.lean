import Stencil.Language

/-!
# Stencil.Proofs.Forest

Message declarations as a forest. A declaration is told by its position: its number among the
roots, then among what is nested there, and so on. Two declarations may be equal as values; their
positions differ.

* `chain?`  — the declarations on the way to a position, outermost first.
* `Shown`   — a position with no item on the way to it.
* `walk`    — the shown positions, each declaration before what is nested in it.

`mem_walk` says that a walk meets exactly the shown positions, and `walk_sorted` that it meets
them in lexicographic order, which is pre-order, and hence none of them twice.
-/

namespace Stencil
namespace MessageDecl

/-- Induction on a forest: over what is nested in the first root and over the roots after it. -/
theorem forest_induction {P : List MessageDecl → Prop} (nil : P [])
    (cons : ∀ d rest, P d.nested → P rest → P (d :: rest)) (decls : List MessageDecl) : P decls :=
  MessageDecl.rec_1 (motive_1 := fun d => P d.nested) (motive_2 := P) (fun _ _ _ h => h) nil cons
    decls

def isItem (d : MessageDecl) : Bool := isItemName d.name

def chain? : List MessageDecl → List Nat → Option (List MessageDecl)
  | _, [] => some []
  | decls, i :: rest => decls[i]?.bind fun d => (chain? d.nested rest).map (d :: ·)

/-- The roots stand at positions of one number; nothing stands at the empty position. -/
def Shown (decls : List MessageDecl) (p : List Nat) : Prop :=
  ∃ ds, chain? decls p = some ds ∧ ds ≠ [] ∧ ∀ d ∈ ds, d.isItem = false

mutual

/-- Positions below a declaration start at the declaration itself. An item is passed over with all
that is nested in it. -/
def walkBelow : MessageDecl → List (List Nat)
  | ⟨name?, _, nested⟩ => if isItemName (name?.getD "") then [] else [] :: walk 0 nested

/-- The walk of roots that are numbered from `i` on. -/
def walk : Nat → List MessageDecl → List (List Nat)
  | _, [] => []
  | i, d :: rest => d.walkBelow.map (i :: ·) ++ walk (i + 1) rest

end

/-- A forest with items inside a message, at the top, and with messages below them. -/
def orders : List MessageDecl :=
  [{ name? := some "Order"
     fields := [{ name? := some "lines", label? := some 3, type? := some 11,
                  typeName? := some ".shop.Order.__Line" }]
     nested := [{ name? := some "__Line", nested := [{ name? := some "Tax" }] },
                { name? := some "Address", nested := [{ name? := some "Geo" }] }] },
   { name? := some "__Draft", nested := [{ name? := some "Order" }] },
   { name? := some "Address" }]

theorem walkBelow_eq (d : MessageDecl) :
    d.walkBelow = if d.isItem then [] else [] :: walk 0 d.nested := by
  cases d
  rfl

theorem walk_cons (i : Nat) (d : MessageDecl) (rest : List MessageDecl) :
    walk i (d :: rest) = d.walkBelow.map (i :: ·) ++ walk (i + 1) rest := rfl

/-! ## What a walk meets -/

theorem length_chain? {decls ds : List MessageDecl} {p : List Nat} (h : chain? decls p = some ds) :
    ds.length = p.length := by
  induction p generalizing decls ds with
  | nil => cases h; rfl
  | cons i rest ih =>
    obtain ⟨d, -, hd⟩ := Option.bind_eq_some_iff.mp h
    obtain ⟨ds', hds, rfl⟩ := Option.map_eq_some_iff.mp hd
    rw [List.length_cons, List.length_cons, ih hds]

theorem Shown.ne_nil {decls : List MessageDecl} {p : List Nat} (h : Shown decls p) : p ≠ [] := by
  rintro rfl
  obtain ⟨ds, hds, hne, -⟩ := h
  cases hds
  exact hne rfl

theorem shown_zero {d : MessageDecl} {rest : List MessageDecl} {q : List Nat} :
    Shown (d :: rest) (0 :: q) ↔ d.isItem = false ∧ (q = [] ∨ Shown d.nested q) := by
  constructor
  · rintro ⟨ds, hds, -, hshown⟩
    obtain ⟨ds', h, rfl⟩ := Option.map_eq_some_iff.mp hds
    refine ⟨hshown d List.mem_cons_self, ?_⟩
    cases ds' with
    | nil => exact .inl (List.eq_nil_of_length_eq_zero (length_chain? h).symm)
    | cons e es => exact .inr ⟨e :: es, h, by simp, fun x hx => hshown x (.tail d hx)⟩
  · rintro ⟨hd, rfl | ⟨ds, h, -, hshown⟩⟩
    · exact ⟨[d], rfl, by simp, by simpa using hd⟩
    · refine ⟨d :: ds, by simp [chain?, h], by simp, ?_⟩
      simpa [hd] using hshown

theorem shown_succ {d : MessageDecl} {rest : List MessageDecl} {i : Nat} {q : List Nat} :
    Shown (d :: rest) ((i + 1) :: q) ↔ Shown rest (i :: q) := by
  simp [Shown, chain?]

theorem not_shown_nil {p : List Nat} : ¬ Shown [] p := by
  rintro ⟨ds, h, hne, -⟩
  cases p with
  | nil => cases h; exact hne rfl
  | cons i q => cases h

/-- A walk from `k` on meets exactly the shown positions, their first number counted from `k`. -/
theorem mem_walk_iff {k : Nat} {decls : List MessageDecl} {p : List Nat} :
    p ∈ walk k decls ↔ ∃ i q, p = (k + i) :: q ∧ Shown decls (i :: q) := by
  induction decls using forest_induction generalizing k p with
  | nil => simp [walk, not_shown_nil]
  | cons d rest nested siblings =>
    have below : ∀ q, q ∈ d.walkBelow ↔ d.isItem = false ∧ (q = [] ∨ Shown d.nested q) := by
      intro q
      rw [walkBelow_eq]
      cases hd : d.isItem with
      | true => simp
      | false =>
        simp only [Bool.false_eq_true, if_false, List.mem_cons, true_and, nested, Nat.zero_add]
        constructor
        · rintro (rfl | ⟨i, q', rfl, hq⟩)
          · exact .inl rfl
          · exact .inr hq
        · rintro (rfl | hq)
          · exact .inl rfl
          · obtain ⟨i, q', rfl⟩ := List.exists_cons_of_ne_nil hq.ne_nil
            exact .inr ⟨i, q', rfl, hq⟩
    rw [walk_cons, List.mem_append, List.mem_map]
    constructor
    · rintro (⟨q, hq, rfl⟩ | hp)
      · exact ⟨0, q, rfl, shown_zero.mpr ((below q).mp hq)⟩
      · obtain ⟨i, q, rfl, hq⟩ := siblings.mp hp
        exact ⟨i + 1, q, by rw [Nat.add_right_comm, Nat.add_assoc], shown_succ.mpr hq⟩
    · rintro ⟨i, q, rfl, hq⟩
      cases i with
      | zero => exact .inl ⟨q, (below q).mpr (shown_zero.mp hq), rfl⟩
      | succ i =>
        refine .inr (siblings.mpr ⟨i, q, ?_, shown_succ.mp hq⟩)
        rw [Nat.add_right_comm, Nat.add_assoc]

theorem mem_walk {decls : List MessageDecl} {p : List Nat} :
    p ∈ walk 0 decls ↔ Shown decls p := by
  rw [mem_walk_iff]
  constructor
  · rintro ⟨i, q, rfl, h⟩
    rwa [Nat.zero_add]
  · intro h
    obtain ⟨i, q, rfl⟩ := List.exists_cons_of_ne_nil h.ne_nil
    exact ⟨i, q, by rw [Nat.zero_add], h⟩

theorem walk_sorted (k : Nat) (decls : List MessageDecl) : (walk k decls).Pairwise (· < ·) := by
  induction decls using forest_induction generalizing k with
  | nil => exact .nil
  | cons d rest nested siblings =>
    have below : d.walkBelow.Pairwise (· < ·) := by
      rw [walkBelow_eq]
      split
      · exact .nil
      · refine List.pairwise_cons.mpr ⟨fun p hp => ?_, nested 0⟩
        obtain ⟨i, q, rfl, -⟩ := mem_walk_iff.mp hp
        exact List.nil_lt_cons _ _
    rw [walk_cons, List.pairwise_append, List.pairwise_map]
    refine ⟨below.imp fun h => List.cons_lt_cons_iff.mpr (.inr ⟨rfl, h⟩), siblings (k + 1), ?_⟩
    intro p hp q hq
    obtain ⟨p', -, rfl⟩ := List.mem_map.mp hp
    obtain ⟨i, q', rfl, -⟩ := mem_walk_iff.mp hq
    exact List.cons_lt_cons_iff.mpr (.inl (by omega))

end MessageDecl
end Stencil
