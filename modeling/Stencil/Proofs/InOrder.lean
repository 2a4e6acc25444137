import Mathlib.Data.List.Forall2
import Stencil.Generation

/-!
# Stencil.Proofs.InOrder

Attempts one after the other, up to the first that fails. What comes of one attempt is told by a
relation, so that it can be said without the function that makes it.

* `AllSucceed`   — what comes of all attempts, in order.
* `FirstFailure` — what comes of the first that fails, behind others that succeed.
* `mapM_eq_ok`, `mapM_eq_error` — what attempts made by a function come to.
-/

namespace Stencil

section

variable {α β γ ε : Type}

def AllSucceed (comes : α → Except ε β → Prop) : List α → List β → Prop :=
  List.Forall₂ fun x y => comes x (.ok y)

def FirstFailure (comes : α → Except ε β → Prop) (xs : List α) (e : ε) : Prop :=
  ∃ before x after, xs = before ++ x :: after ∧
    (∀ other ∈ before, ∃ y, comes other (.ok y)) ∧ comes x (.error e)

theorem AllSucceed.exists_result {comes : α → Except ε β → Prop} {xs : List α}
    {ys : List β} (h : AllSucceed comes xs ys) : ∀ x ∈ xs, ∃ y ∈ ys, comes x (.ok y) := by
  induction h with
  | nil => nofun
  | cons hx _ ih =>
    refine List.forall_mem_cons.mpr ⟨⟨_, List.mem_cons_self, hx⟩, fun x hmem => ?_⟩
    obtain ⟨y, hy, hcomes⟩ := ih x hmem
    exact ⟨y, List.mem_cons_of_mem _ hy, hcomes⟩

theorem AllSucceed.exists_ok {comes : α → Except ε β → Prop} {xs : List α}
    {ys : List β} (h : AllSucceed comes xs ys) : ∀ x ∈ xs, ∃ y, comes x (.ok y) := by
  intro x hx
  obtain ⟨y, -, hcomes⟩ := h.exists_result x hx
  exact ⟨y, hcomes⟩

theorem AllSucceed.exists_source {comes : α → Except ε β → Prop} {xs : List α}
    {ys : List β} (h : AllSucceed comes xs ys) : ∀ y ∈ ys, ∃ x ∈ xs, comes x (.ok y) := by
  induction h with
  | nil => nofun
  | cons hx _ ih =>
    refine List.forall_mem_cons.mpr ⟨⟨_, List.mem_cons_self, hx⟩, fun y hmem => ?_⟩
    obtain ⟨x, hx, hcomes⟩ := ih y hmem
    exact ⟨x, List.mem_cons_of_mem _ hx, hcomes⟩

theorem AllSucceed.unique {comes : α → Except ε β → Prop} {xs : List α} {ys ys' : List β}
    (h : AllSucceed comes xs ys)
    (hcomes : ∀ x result result', comes x result → comes x result' → result = result')
    (h' : AllSucceed comes xs ys') : ys = ys' := by
  induction h generalizing ys' with
  | nil =>
    cases h'
    rfl
  | cons hx _ ih =>
    cases h' with
    | cons hx' hrest' => rw [Except.ok.inj (hcomes _ _ _ hx hx'), ih hrest']

theorem not_firstFailure_nil {comes : α → Except ε β → Prop} {e : ε} :
    ¬ FirstFailure comes [] e := by
  rintro ⟨before, x, after, h, -⟩
  cases before <;> cases h

theorem firstFailure_cons {comes : α → Except ε β → Prop} {x : α} {rest : List α} {e : ε} :
    FirstFailure comes (x :: rest) e ↔
      comes x (.error e) ∨ (∃ y, comes x (.ok y)) ∧ FirstFailure comes rest e := by
  constructor
  · rintro ⟨before, failing, after, h, hbefore, hfails⟩
    cases before with
    | nil =>
      cases h
      exact .inl hfails
    | cons first before =>
      cases h
      obtain ⟨hfirst, hbefore⟩ := List.forall_mem_cons.mp hbefore
      exact .inr ⟨hfirst, before, failing, after, rfl, hbefore, hfails⟩
  · rintro (hx | ⟨hx, before, failing, after, rfl, hbefore, hfails⟩)
    · exact ⟨[], x, rest, rfl, nofun, hx⟩
    · exact ⟨x :: before, failing, after, rfl, List.forall_mem_cons.mpr ⟨hx, hbefore⟩, hfails⟩

/-- In lists that stand one behind the other: the first failure of the first list that has one. -/
theorem firstFailure_flatMap {comes : α → Except ε β → Prop} {f : γ → List α} {lists : List γ}
    {e : ε} :
    FirstFailure comes (lists.flatMap f) e ↔
      ∃ before l after, lists = before ++ l :: after ∧
        (∀ other ∈ before, ∀ x ∈ f other, ∃ y, comes x (.ok y)) ∧ FirstFailure comes (f l) e := by
  constructor
  · rintro ⟨before, x, after, h, hbefore, hfails⟩
    induction lists generalizing before with
    | nil => cases before <;> cases h
    | cons l rest ih =>
      rw [List.flatMap_cons] at h
      rcases List.append_eq_append_iff.mp h with ⟨more, hmore, hrest⟩ | ⟨more, hl, hrest⟩
      · -- the whole list stands before the failure
        obtain ⟨first, l', last, hlists, hfirst, hl'⟩ :=
          ih more hrest fun y hy => hbefore y (hmore ▸ List.mem_append_right _ hy)
        refine ⟨l :: first, l', last, by rw [hlists]; rfl, ?_, hl'⟩
        refine List.forall_mem_cons.mpr ⟨fun y hy => ?_, hfirst⟩
        exact hbefore y (hmore ▸ List.mem_append_left _ hy)
      · cases more with
        | nil =>
          obtain ⟨first, l', last, hlists, hfirst, hl'⟩ := ih [] hrest.symm nofun
          refine ⟨l :: first, l', last, by rw [hlists]; rfl, ?_, hl'⟩
          refine List.forall_mem_cons.mpr ⟨fun y hy => ?_, hfirst⟩
          rw [List.append_nil] at hl
          exact hbefore y (hl ▸ hy)
        | cons y more =>
          cases hrest
          exact ⟨[], l, rest, rfl, nofun, before, x, more, hl, hbefore, hfails⟩
  · rintro ⟨before, l, after, rfl, hbefore, first, x, last, hl, hfirst, hfails⟩
    refine ⟨before.flatMap f ++ first, x, last ++ after.flatMap f, ?_, ?_, hfails⟩
    · simp [hl]
    · intro y hy
      rcases List.mem_append.mp hy with hy | hy
      · obtain ⟨other, hother, hy⟩ := List.mem_flatMap.mp hy
        exact hbefore other hother y hy
      · exact hfirst y hy

/-! ## Attempts made by a function -/

theorem mapM_congr {f g : α → Except ε β} {xs : List α} (h : ∀ x ∈ xs, f x = g x) :
    xs.mapM f = xs.mapM g := by
  induction xs with
  | nil => rfl
  | cons x rest ih =>
    obtain ⟨hx, hrest⟩ := List.forall_mem_cons.mp h
    rw [List.mapM_cons, List.mapM_cons, hx, ih hrest]

theorem mapM_eq_ok {f : α → Except ε β} {comes : α → Except ε β → Prop}
    (hf : ∀ x result, f x = result ↔ comes x result) {xs : List α} {ys : List β} :
    xs.mapM f = .ok ys ↔ AllSucceed comes xs ys := by
  induction xs generalizing ys with
  | nil =>
    rw [List.mapM_nil]
    constructor
    · intro h
      cases h
      exact .nil
    · intro h
      cases h
      rfl
  | cons x rest ih =>
    rw [List.mapM_cons]
    constructor
    · intro h
      cases hx : f x with
      | error e =>
        rw [hx] at h
        cases h
      | ok y =>
        cases hrest : rest.mapM f with
        | error e =>
          rw [hx, hrest] at h
          cases h
        | ok others =>
          rw [hx, hrest] at h
          cases h
          exact .cons ((hf _ _).mp hx) (ih.mp hrest)
    · intro h
      cases h with
      | cons hx hrest =>
        rw [(hf _ _).mpr hx, ih.mpr hrest]
        rfl

theorem mapM_eq_error {f : α → Except ε β} {comes : α → Except ε β → Prop}
    (hf : ∀ x result, f x = result ↔ comes x result) {xs : List α} {e : ε} :
    xs.mapM f = .error e ↔ FirstFailure comes xs e := by
  induction xs with
  | nil =>
    rw [List.mapM_nil]
    exact ⟨nofun, fun h => absurd h not_firstFailure_nil⟩
  | cons x rest ih =>
    rw [List.mapM_cons, firstFailure_cons, ← ih, ← hf]
    cases hx : f x with
    | error e' =>
      have hnot : ¬ ∃ y, comes x (.ok y) := by
        rintro ⟨y, hy⟩
        rw [(hf _ _).mpr hy] at hx
        cases hx
      constructor
      · intro h
        cases h
        exact .inl rfl
      · rintro (h | ⟨h, -⟩)
        · cases h
          rfl
        · exact absurd h hnot
    | ok y =>
      have hok : ∃ y, comes x (.ok y) := ⟨y, (hf _ _).mp hx⟩
      cases rest.mapM f with
      | error e' =>
        constructor
        · intro h
          cases h
          exact .inr ⟨hok, rfl⟩
        · rintro (h | ⟨-, h⟩)
          · cases h
          · cases h
            rfl
      | ok ys =>
        constructor
        · intro h
          cases h
        · rintro (h | ⟨-, h⟩)
          · cases h
          · cases h

end

theorem attemptAll_eq_mapM (attempt : String → Except Failure Model) (names : List String) :
    attemptAll attempt names = names.mapM attempt := by
  induction names with
  | nil => rfl
  | cons name rest ih =>
    rw [List.mapM_cons, attemptAll, ih]
    cases attempt name with
    | error e => rfl
    | ok m =>
      cases rest.mapM attempt <;> rfl

theorem renderEach_eq_mapM (render : Context → Except EngineFault RenderedFile)
    (cs : List Context) : renderEach render cs = cs.mapM render := by
  induction cs with
  | nil => rfl
  | cons c rest ih =>
    rw [List.mapM_cons, renderEach, ih]
    cases render c with
    | error e => rfl
    | ok file =>
      cases rest.mapM render <;> rfl

end Stencil
