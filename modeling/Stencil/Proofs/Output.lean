import Stencil.Output
import Stencil.Proofs.Path

/-!
# Stencil.Proofs.Output

What writing files leaves alone, and what there is afterwards.

* `Disk.Spares`      — nothing is gone, and every file that a path led to is still the same.
* `writeAll_spares`  — files written where nothing was spare the disk that was.
* `writeAll_exists?` — after all files are written, each of their paths leads to something.
-/

namespace Stencil
namespace Disk

/-- What an earlier disk can tell of a later one. Only files in open directories count: no path
leads to any other. -/
structure Spares (d₀ d : Disk) : Prop where
  keeps : Keeps d₀ d
  same : ∀ place name content, d₀.IsOpen place →
    d₀.entry? (place ++ [name]) = some (.file content) →
      d.entry? (place ++ [name]) = some (.file content)

theorem Spares.refl (d : Disk) : Spares d d := ⟨Keeps.refl d, fun _ _ _ _ h => h⟩

theorem Spares.extend {d₀ d d' : Disk} (h : Spares d₀ d) (h' : Extends d d') : Spares d₀ d' :=
  ⟨h.keeps.trans h'.keeps, fun place name content hopen hfile =>
    h' _ _ (h.same place name content hopen hfile)⟩

/-- A path that does not go up and led nowhere cannot lead to a file that was there before, not
even after the directories on its way are made. -/
theorem Spares.write {d₀ d d' : Disk} {path : String} {content : ByteArray} (h : Spares d₀ d)
    (hup : Path.NeverUp path) (hnew : d₀.exists? path = false)
    (hw : d.write path content = .ok d') : Spares d₀ d' := by
  refine ⟨h.keeps.trans (write_keeps hw), ?_⟩
  intro place name old hopen hfile
  obtain ⟨last, q, hlast, hq, hslash, hdir, rfl⟩ := write_eq_ok hw
  have hmove : move q last = q ++ [last] := move_eq_concat (enter_isOpen d.isOpen_nil hq) hdir
  rw [hmove, entry?_put (by simp), if_neg]
  · exact h.same place name old hopen hfile
  · intro heq
    -- the old file would stand where the path leads now, so the path led there before
    obtain ⟨rfl, hname⟩ := List.append_inj' (eq_of_beq heq) rfl
    cases hname
    have hsteps : ".." ∉ (Path.steps path).dropLast := fun hmem =>
      hup (List.dropLast_subset _ hmem)
    have hplace := enter_neverUp hsteps hq
    have hq₀ : d₀.enter [] (Path.steps path).dropLast = .ok place := by
      rw [hplace] at hopen ⊢
      exact enter_of_isOpen hsteps hopen
    have hfound : d₀.find path = .ok (.file old) :=
      find_eq_file.mpr ⟨name, place, hlast, hq₀, hslash, by rw [hmove]; exact hfile⟩
    rw [exists?, hfound] at hnew
    cases hnew

theorem Spares.find_file {d₀ d : Disk} (h : Spares d₀ d) {path : String} {content : ByteArray}
    (hf : d₀.find path = .ok (.file content)) : d.find path = .ok (.file content) := by
  obtain ⟨last, place, hlast, hq, hslash, hfile⟩ := find_eq_file.mp hf
  have hopen : d₀.IsOpen place := enter_isOpen d₀.isOpen_nil hq
  have hmove : move place last = place ++ [last] := move_eq_concat hopen (by simp [hfile])
  rw [hmove] at hfile
  refine find_eq_file.mpr ⟨last, place, hlast, h.keeps.enter hq, hslash, ?_⟩
  rw [hmove]
  exact h.same place last content hopen hfile

theorem Spares.readText {d₀ d : Disk} (h : Spares d₀ d) {path text : String}
    (ht : d₀.readText path = .ok text) : d.readText path = .ok text := by
  simp only [Disk.readText, Disk.read] at ht ⊢
  cases hf : d₀.find path with
  | error e => rw [hf] at ht; cases ht
  | ok e =>
    rw [hf] at ht
    cases e with
    | directory => cases ht
    | file content =>
      rw [h.find_file hf]
      exact ht

theorem write_find {d d' : Disk} {path : String} {content : ByteArray}
    (h : d.write path content = .ok d') : d'.find path = .ok (.file content) := by
  have hkeeps := write_keeps h
  obtain ⟨last, place, hlast, hq, hslash, hdir, rfl⟩ := write_eq_ok h
  have hplace : move place last ≠ [] := by
    intro hnil
    rw [hnil] at hdir
    exact hdir d.entry?_nil
  have hfile := entry?_put (d := d) hplace (.file content) (move place last)
  rw [if_pos (beq_self_eq_true _)] at hfile
  exact find_eq_file.mpr ⟨last, place, hlast, hkeeps.enter hq, hslash, hfile⟩

theorem write_exists? {d d' : Disk} {path : String} {content : ByteArray}
    (h : d.write path content = .ok d') : d'.exists? path = true := by
  rw [exists?, write_find h]
  rfl

end Disk

/-! ## Writing files -/

open Disk (Keeps Paves Spares)

/-- Either directories are made and no more, or the file is written below them as well. -/
theorem writeFile_cases (d : Disk) (path content : String) :
    (∃ made fault, Paves (Path.properSteps path).dropLast d made ∧
        writeFile d path content = (made, some fault)) ∨
      ∃ made written, Paves (Path.properSteps path).dropLast d made ∧
        made.write path content.toUTF8 = .ok written ∧
        writeFile d path content = (written, none) := by
  have hdirs := Disk.makeDirs_paves d (Path.properSteps path).dropLast
  simp only [writeFile]
  split
  · rename_i made fault hmade
    rw [hmade] at hdirs
    exact .inl ⟨made, fault, hdirs, rfl⟩
  · rename_i made hmade
    rw [hmade] at hdirs
    split
    · rename_i fault _
      exact .inl ⟨made, fault, hdirs, rfl⟩
    · rename_i written hw
      exact .inr ⟨made, written, hdirs, hw, rfl⟩

theorem writeFile_keeps (d : Disk) (path content : String) :
    Keeps d (writeFile d path content).1 := by
  obtain ⟨made, fault, hdirs, h⟩ | ⟨made, written, hdirs, hw, h⟩ := writeFile_cases d path content
  · rw [h]
    exact hdirs.extends.keeps
  · rw [h]
    exact hdirs.extends.keeps.trans (Disk.write_keeps hw)

theorem writeFile_spares {d₀ d : Disk} {path : String} (h : Spares d₀ d) (hup : Path.NeverUp path)
    (hnew : d₀.exists? path = false) (content : String) :
    Spares d₀ (writeFile d path content).1 := by
  obtain ⟨made, fault, hdirs, hf⟩ | ⟨made, written, hdirs, hw, hf⟩ := writeFile_cases d path content
  · rw [hf]
    exact h.extend hdirs.extends
  · rw [hf]
    exact (h.extend hdirs.extends).write hup hnew hw

theorem writeFile_exists? {d : Disk} {path content : String}
    (h : (writeFile d path content).2 = none) :
    (writeFile d path content).1.exists? path = true := by
  obtain ⟨made, fault, hdirs, hf⟩ | ⟨made, written, hdirs, hw, hf⟩ := writeFile_cases d path content
  · rw [hf] at h
    cases h
  · rw [hf]
    exact Disk.write_exists? hw

-- Unsealed, the directories on the way would be unfolded as well.
seal writeFile in
theorem writeAll_cons (d : Disk) (root : String) (file : OutputFile) (rest : List OutputFile) :
    writeAll d root (file :: rest) =
      match writeFile d (Path.join root file.name) file.content with
      | (made, some fault) => ⟨made, [], some fault⟩
      | (made, none) =>
        { writeAll made root rest with
          files := ⟨Path.join root file.name, file.content⟩ :: (writeAll made root rest).files } :=
  rfl

theorem writeAll_keeps (d : Disk) (root : String) (files : List OutputFile) :
    Keeps d (writeAll d root files).disk := by
  induction files generalizing d with
  | nil => exact Keeps.refl d
  | cons file rest ih =>
    have hfile := writeFile_keeps d (Path.join root file.name) file.content
    rw [writeAll_cons]
    split
    · rename_i made fault hmade
      rwa [hmade] at hfile
    · rename_i made hmade
      rw [hmade] at hfile
      exact hfile.trans (ih made)

/-- This holds of a run that fails halfway, too. -/
theorem writeAll_spares {d₀ d : Disk} {root : String} {files : List OutputFile} (h : Spares d₀ d)
    (hup : ∀ file ∈ files, Path.NeverUp (Path.join root file.name))
    (hnew : ∀ file ∈ files, d₀.exists? (Path.join root file.name) = false) :
    Spares d₀ (writeAll d root files).disk := by
  induction files generalizing d with
  | nil => exact h
  | cons file rest ih =>
    obtain ⟨hup, hups⟩ := List.forall_mem_cons.mp hup
    obtain ⟨hnew, hnews⟩ := List.forall_mem_cons.mp hnew
    have hfile := writeFile_spares h hup hnew file.content
    rw [writeAll_cons]
    split
    · rename_i made fault hmade
      rwa [hmade] at hfile
    · rename_i made hmade
      rw [hmade] at hfile
      exact ih hfile hups hnews

theorem writeAll_exists? {d : Disk} {root : String} {files : List OutputFile}
    (h : (writeAll d root files).fault? = none) :
    ∀ file ∈ files, (writeAll d root files).disk.exists? (Path.join root file.name) = true := by
  induction files generalizing d with
  | nil => simp
  | cons file rest ih =>
    rw [writeAll_cons] at h ⊢
    split at h
    · cases h
    · rename_i made hmade
      have hfile : made.exists? (Path.join root file.name) = true := by
        have hwritten := writeFile_exists? (congrArg Prod.snd hmade)
        rwa [hmade] at hwritten
      intro other hother
      rcases List.mem_cons.mp hother with rfl | hother
      · exact (writeAll_keeps made root rest).exists?_mono hfile
      · exact ih h other hother

end Stencil
