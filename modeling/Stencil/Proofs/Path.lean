import Stencil.Proofs.Disk
import Stencil.Proofs.Pieces

/-!
# Stencil.Proofs.Path

Where paths lead that never go up.

* `steps_join`     — a path below another one has the steps of both, unless it stands on its own.
* `Path.NeverUp`   — no step goes up.
* `enter_neverUp`, `enter_of_isOpen` — such a path leads to the place its steps spell, and it does
  so on every disk where that place is open.
-/

namespace Stencil
namespace Path

theorem steps_append (before after : List Char) :
    steps (String.ofList (before ++ '/' :: after)) =
      steps (String.ofList before) ++ steps (String.ofList after) := by
  simp only [steps, String.toList_ofList, Text.splitOn_append, List.filter_append, List.map_append]

theorem steps_join_of_relative {path : String} (h : isAbsolute path = false) (base : String) :
    steps (join base path) = steps base ++ steps path := by
  unfold join
  rw [h, Bool.false_or]
  split
  · rename_i hempty
    rw [String.isEmpty_iff.mp hempty]
    rfl
  · split
    · rename_i hslash
      obtain ⟨before, hbefore⟩ := List.getLast?_eq_some_iff.mp (eq_of_beq hslash)
      have hbase : base = String.ofList (before ++ '/' :: []) := by
        rw [← hbefore, String.ofList_toList]
      have hpath : base ++ path = String.ofList (before ++ '/' :: path.toList) := by
        rw [← String.toList_inj]
        simp [hbefore]
      have hnone : steps (String.ofList []) = [] := rfl
      rw [hpath, hbase, steps_append, steps_append, hnone, List.append_nil, String.ofList_toList]
    · have hpath : base ++ "/" ++ path = String.ofList (base.toList ++ '/' :: path.toList) := by
        rw [← String.toList_inj]
        simp
      rw [hpath, steps_append, String.ofList_toList, String.ofList_toList]

theorem steps_join (base path : String) :
    steps (join base path) = steps path ∨
      steps (join base path) = steps base ++ steps path := by
  cases h : isAbsolute path with
  | true => exact .inl (by rw [join, h, Bool.true_or, if_pos rfl])
  | false => exact .inr (steps_join_of_relative h base)

def NeverUp (path : String) : Prop :=
  ".." ∉ steps path

instance (path : String) : Decidable (NeverUp path) :=
  inferInstanceAs (Decidable (".." ∉ steps path))

theorem NeverUp.join {base path : String} (hbase : NeverUp base) (hpath : NeverUp path) :
    NeverUp (join base path) := by
  intro hup
  rcases steps_join base path with h | h <;> rw [h] at hup
  · exact hpath hup
  · exact (List.mem_append.mp hup).elim hbase hpath

end Path

namespace Disk

theorem move_neverUp {step : String} (h : step ≠ "..") (place : List String) :
    move place step = place ++ [step].filter (· != ".") := by
  by_cases hstay : step = "."
  · simp [move, hstay]
  · simp [move, hstay, h]

theorem foldl_move_neverUp {steps : List String} (hup : ".." ∉ steps) (place : List String) :
    steps.foldl move place = place ++ steps.filter (· != ".") := by
  induction steps generalizing place with
  | nil => simp
  | cons step rest ih =>
    obtain ⟨hstep, hrest⟩ := List.ne_and_not_mem_of_not_mem_cons hup
    rw [List.foldl_cons, ih hrest, move_neverUp hstep.symm, List.append_assoc,
      ← List.filter_append, List.singleton_append]

theorem enter_neverUp {d : Disk} {steps place q : List String} (hup : ".." ∉ steps)
    (hq : d.enter place steps = .ok q) : q = place ++ steps.filter (· != ".") := by
  rw [enter_eq_foldl hq, foldl_move_neverUp hup]

theorem enter_of_isOpen {d : Disk} {steps place : List String} (hup : ".." ∉ steps)
    (h : d.IsOpen (place ++ steps.filter (· != "."))) :
    d.enter place steps = .ok (place ++ steps.filter (· != ".")) := by
  induction steps generalizing place with
  | nil => simp [enter]
  | cons step rest ih =>
    obtain ⟨hstep, hrest⟩ := List.ne_and_not_mem_of_not_mem_cons hup
    have hsplit : place ++ (step :: rest).filter (· != ".") =
        move place step ++ rest.filter (· != ".") := by
      rw [move_neverUp hstep.symm, List.append_assoc, ← List.filter_append, List.singleton_append]
    rw [hsplit] at h ⊢
    have hdir : d.entry? (move place step) = some .directory := h _ (List.prefix_append _ _)
    simp only [enter, hdir]
    exact ih hrest h

end Disk
end Stencil
