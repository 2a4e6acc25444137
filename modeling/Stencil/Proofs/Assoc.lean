/-!
# Stencil.Proofs.Assoc

Association lists that hold one value per key: slots of a session, places on a disk. A value is put
in front of the entries of the other keys.
-/

namespace Stencil

variable {κ α : Type} [BEq κ] [LawfulBEq κ]

theorem lookup_filter_ne (entries : List (κ × α)) (key other : κ) :
    (entries.filter (·.1 != key)).lookup other =
      if other == key then none else entries.lookup other := by
  induction entries with
  | nil => simp
  | cons entry rest ih =>
    by_cases hentry : entry.1 = key
    · rw [List.filter_cons_of_neg (by simpa using hentry), ih]
      split
      · rfl
      · rename_i hother
        have hne : (other == entry.1) = false := by
          rw [hentry]
          simpa using hother
        rw [List.lookup_cons, hne]
    · rw [List.filter_cons_of_pos (by simpa using hentry), List.lookup_cons, List.lookup_cons, ih]
      by_cases hother : other = entry.1
      · simp [hother, hentry]
      · rw [beq_false_of_ne hother]

theorem lookup_put (entries : List (κ × α)) (key other : κ) (a : α) :
    ((key, a) :: entries.filter (·.1 != key)).lookup other =
      if other == key then some a else entries.lookup other := by
  rw [List.lookup_cons, lookup_filter_ne]
  cases other == key <;> rfl

theorem lookup_eq_none_iff_notMem {entries : List (κ × α)} {key : κ} :
    entries.lookup key = none ↔ key ∉ entries.map (·.1) := by
  rw [List.lookup_eq_none_iff, List.mem_map]
  constructor
  · rintro h ⟨entry, hmem, rfl⟩
    simpa using h entry hmem
  · intro h entry hmem
    have hne : key ≠ entry.1 := fun heq => h ⟨entry, hmem, heq.symm⟩
    simpa using hne

end Stencil
