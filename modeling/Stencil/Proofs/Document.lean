import Stencil.Bundled
import Stencil.Proofs.Assoc

/-!
# Stencil.Proofs.Document

A document of the bundled reader defines a key once.

* `Entries.Grows` — what a line of a document does to the entries of a table.

Headers and pairs either add an entry under a key that is not there yet or change one that is, so
the keys of what is read stay apart (`document?_nodup`, `reader_keysApart`).
-/

namespace Stencil.Bundled.Toml

/-- One entry is new, or the value of one is another. -/
inductive Entries.Grows : Entries → Entries → Prop where
  | new {es : Entries} {key : String} (absent : es.lookup key = none) (v : Value) :
    Grows es (es ++ [(key, v)])
  | change (es : Entries) (key : String) (v : Value) : Grows es (es.set key v)

theorem Entries.map_fst_set (es : Entries) (key : String) (v : Value) :
    (es.set key v).map (·.1) = es.map (·.1) := by
  rw [set, List.map_map]
  refine List.map_congr_left fun e _ => ?_
  by_cases h : e.1 = key <;> simp [h]

theorem Entries.Grows.nodup {es es' : Entries} (h : es.Grows es')
    (hes : (es.map (·.1)).Nodup) : (es'.map (·.1)).Nodup := by
  cases h with
  | change key v => rwa [map_fst_set]
  | @new key absent v =>
    rw [List.map_append, List.nodup_append]
    refine ⟨hes, by simp, ?_⟩
    rintro a ha b hb rfl
    rw [List.mem_singleton.mp hb] at ha
    exact lookup_eq_none_iff_notMem.mp absent ha

/-! ## Tables -/

theorem openTable_grows {f : Entries → Option Entries}
    (hf : ∀ es es', f es = some es' → es.Grows es') {path : List String} {es es' : Entries}
    (h : openTable f path es = some es') : es.Grows es' := by
  cases path with
  | nil => exact hf es es' h
  | cons key rest =>
    rw [openTable] at h
    split at h
    · rename_i absent
      obtain ⟨sub, -, rfl⟩ := Option.map_eq_some_iff.mp h
      exact .new absent _
    · cases h
    · obtain ⟨sub, -, rfl⟩ := Option.map_eq_some_iff.mp h
      exact .change es key _
    · split at h
      · cases h
      · obtain ⟨last, -, rfl⟩ := Option.map_eq_some_iff.mp h
        exact .change es key _
    · cases h

theorem defineTable_grows {path : List String} {es es' : Entries}
    (h : defineTable path es = some es') : es.Grows es' := by
  unfold defineTable at h
  split at h
  · cases h
  · refine openTable_grows ?_ h
    intro es es' hf
    split at hf
    · rename_i absent
      cases hf
      exact .new absent _
    · cases hf
      exact .change es _ _
    · cases hf

theorem appendTable_grows {path : List String} {es es' : Entries}
    (h : appendTable path es = some es') : es.Grows es' := by
  unfold appendTable at h
  split at h
  · cases h
  · refine openTable_grows ?_ h
    intro es es' hf
    split at hf
    · rename_i absent
      cases hf
      exact .new absent _
    · cases hf
      exact .change es _ _
    · cases hf

theorem insertAt_grows {v : Value} {path : List String} {es es' : Entries}
    (h : insertAt v path es = some es') : es.Grows es' := by
  unfold insertAt at h
  split at h
  · cases h
  · split at h
    · cases h
    · rename_i absent
      cases h
      exact .new (Option.not_isSome_iff_eq_none.mp absent) v
  · split at h
    · rename_i absent
      obtain ⟨sub, -, rfl⟩ := Option.map_eq_some_iff.mp h
      exact .new absent _
    · obtain ⟨sub, -, rfl⟩ := Option.map_eq_some_iff.mp h
      exact .change es _ _
    · split at h
      · cases h
      · obtain ⟨sub, -, rfl⟩ := Option.map_eq_some_iff.mp h
        exact .change es _ _
    · split at h
      · cases h
      · split at h
        · cases h
        · obtain ⟨last, -, rfl⟩ := Option.map_eq_some_iff.mp h
          exact .change es _ _
    · cases h

/-! ## Lines -/

theorem header?_grows {steps : Nat} {es es' : Entries} {cs rest : List Char} {path : List String}
    (h : header? steps es cs = some (path, es', rest)) : es.Grows es' := by
  unfold header? at h
  split at h
  · obtain ⟨⟨key, more⟩, -, h⟩ := Option.bind_eq_some_iff.mp h
    dsimp only at h
    split at h
    · obtain ⟨es'', happend, h⟩ := Option.bind_eq_some_iff.mp h
      obtain ⟨_, -, h⟩ := Option.bind_eq_some_iff.mp h
      cases h
      exact appendTable_grows happend
    · cases h
  · obtain ⟨⟨key, more⟩, -, h⟩ := Option.bind_eq_some_iff.mp h
    dsimp only at h
    split at h
    · obtain ⟨es'', hdefine, h⟩ := Option.bind_eq_some_iff.mp h
      obtain ⟨_, -, h⟩ := Option.bind_eq_some_iff.mp h
      cases h
      exact defineTable_grows hdefine
    · cases h
  · cases h

theorem lines?_nodup {steps : Nat} {path : List String} {es es' : Entries} {cs : List Char}
    (h : lines? steps path es cs = some es') (hes : (es.map (·.1)).Nodup) :
    (es'.map (·.1)).Nodup := by
  induction steps generalizing path es cs with
  | zero => cases h
  | succ steps ih =>
    rw [lines?] at h
    obtain ⟨more, -, h⟩ := Option.bind_eq_some_iff.mp h
    split at h
    · cases h
      exact hes
    · obtain ⟨⟨path', es₁, rest⟩, hheader, h⟩ := Option.bind_eq_some_iff.mp h
      exact ih h ((header?_grows hheader).nodup hes)
    · obtain ⟨⟨key, v, rest⟩, -, h⟩ := Option.bind_eq_some_iff.mp h
      obtain ⟨es₁, hopen, h⟩ := Option.bind_eq_some_iff.mp h
      obtain ⟨rest', -, h⟩ := Option.bind_eq_some_iff.mp h
      exact ih h ((openTable_grows (fun _ _ => insertAt_grows) hopen).nodup hes)

theorem document?_nodup {source : String} {es : Entries} (h : document? source = some es) :
    (es.map (·.1)).Nodup :=
  lines?_nodup h List.nodup_nil

/-! ## What is handed over -/

theorem Entries.insert_perm (entry : String × Value) (es : Entries) :
    (es.insert entry).Perm (entry :: es) := by
  induction es with
  | nil => exact .refl _
  | cons first rest ih =>
    rw [insert]
    split
    · exact .refl _
    · exact (ih.cons first).trans (.swap entry first rest)

theorem Entries.sorted_perm (es : Entries) : es.sorted.Perm es := by
  induction es with
  | nil => exact .refl _
  | cons entry rest ih => exact (insert_perm entry _).trans (ih.cons entry)

theorem reader_keysApart : reader.KeysApart := by
  intro source entries h
  simp only [reader] at h
  split at h
  · cases h
  · rename_i es hes
    cases h
    rw [List.map_map]
    exact (es.sorted_perm.map (·.1)).nodup_iff.mpr (document?_nodup hes)

end Stencil.Bundled.Toml
