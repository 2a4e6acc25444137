import Mathlib.Data.List.Nodup
import Stencil.Proofs.Containment

/-!
# Stencil.Proofs.Writing

What is on a disk after files are written to it, place by place.

* `Path.Above`     — a place on the way to another one.
* `Disk.Takes`     — two disks of which the second has some files more, and some new directories.
* `Takes.append`   — what is taken in two turns is taken together.
* `writeAll_takes` — a run takes the files before the first that cannot be written.

A single file is taken in two turns as well: the directories on its way, of which some may stay when
the file cannot be written (`Paves.takes`), and the file itself (`write_takes`).
-/

namespace Stencil

open Disk (Passes)

namespace Path

def Above (place lower : List String) : Prop :=
  place <+: lower ∧ place ≠ lower

theorem above_concat {place way : List String} {last : String} :
    Above place (way ++ [last]) ↔ place <+: way := by
  rw [Above, List.prefix_concat_iff]
  constructor
  · rintro ⟨rfl | hway, hne⟩
    · exact absurd rfl hne
    · exact hway
  · intro hway
    refine ⟨.inr hway, ?_⟩
    rintro rfl
    have hlen := hway.length_le
    rw [List.length_append, List.length_singleton] at hlen
    omega

theorem place_neverUp {path : String} (h : NeverUp path) :
    place path = (steps path).filter (· != ".") :=
  Disk.foldl_move_neverUp h []

theorem place_join {base name : String} (hrelative : isAbsolute name = false)
    (hname : NeverUp name) : place (join base name) = place base ++ place name := by
  rw [place, steps_join_of_relative hrelative, List.foldl_append, Disk.foldl_move_neverUp hname,
    ← place_neverUp hname]
  rfl

theorem NeverUp.properSteps {path : String} (h : NeverUp path) : ".." ∉ properSteps path := by
  intro hmem
  have hkept : ".." ∈ (Path.properSteps path).filter (· != ".") :=
    List.mem_filter.mpr ⟨hmem, by decide⟩
  rw [filter_properSteps] at hkept
  exact h (List.mem_filter.mp hkept).1

theorem ne_stay_of_mem_tail (path : String) : ∀ step ∈ (properSteps path).tail, step ≠ "." := by
  unfold properSteps
  split
  · nofun
  · split
    · intro step hstep
      simpa using (List.mem_filter.mp (List.mem_of_mem_tail hstep)).2
    · intro step hstep
      simpa using (List.mem_filter.mp hstep).2

/-- The last proper step stays where it is only if there is no other. -/
theorem filter_dropLast_properSteps (path : String) :
    (properSteps path).dropLast.filter (· != ".") =
      ((steps path).filter (· != ".")).dropLast := by
  rw [← filter_properSteps]
  have htail := ne_stay_of_mem_tail path
  rcases List.eq_nil_or_concat (properSteps path) with hnil | ⟨front, last, hsteps⟩
  · rw [hnil]
    rfl
  · rw [List.concat_eq_append] at hsteps
    rw [hsteps] at htail ⊢
    rw [List.dropLast_concat, List.filter_append]
    cases front with
    | nil => cases hlast : last != "." <;> simp [hlast]
    | cons first rest =>
      have hlast : last ≠ "." := htail last (by simp)
      simp [hlast]

theorem above_of_passes {path : String} (hup : NeverUp path) {p : List String} (hp : p ≠ [])
    (h : Passes (properSteps path).dropLast p) : Above p (place path) := by
  obtain ⟨front, hfront, rfl⟩ := h
  have hstays : ".." ∉ front := fun hmem =>
    hup.properSteps (List.dropLast_subset _ (hfront.subset hmem))
  have hkept := hfront.filter (· != ".")
  rw [filter_dropLast_properSteps, ← place_neverUp hup] at hkept
  rw [Disk.foldl_move_neverUp hstays, List.nil_append] at hp ⊢
  rcases List.eq_nil_or_concat (place path) with hnil | ⟨way, last, hplace⟩
  · rw [hnil] at hkept
    exact absurd (List.prefix_nil.mp hkept) hp
  · rw [hplace, List.concat_eq_append] at hkept ⊢
    rw [List.dropLast_concat] at hkept
    exact above_concat.mpr hkept

end Path

/-! ## Taking files -/

namespace Disk

/-- No file replaces a directory, and each can be read. The places above are directories, and
anything else is as it was, apart from new directories above the places that `ways` lead to. -/
structure Takes (d : Disk) (files ways : List OutputFile) (d' : Disk) : Prop where
  free : ∀ file ∈ files, d.entry? (Path.place file.name) ≠ some .directory
  content : ∀ file ∈ files, d'.read file.name = .ok file.content.toUTF8
  above : ∀ file ∈ files, ∀ place, Path.Above place (Path.place file.name) →
    d'.entry? place = some .directory
  other : ∀ place, (∀ file ∈ files, Path.place file.name ≠ place) →
    d'.entry? place = d.entry? place ∨
      d.entry? place = none ∧ d'.entry? place = some .directory ∧
        ∃ way ∈ ways, Path.Above place (Path.place way.name)

namespace Takes

variable {d d₁ d₂ : Disk} {files files' ways ways' : List OutputFile}

theorem refl (d : Disk) : Takes d [] [] d :=
  ⟨nofun, nofun, nofun, fun _ _ => .inl rfl⟩

theorem keeps (h : Takes d files ways d₁) : Keeps d d₁ := by
  constructor
  · intro place hdir
    have hother : ∀ file ∈ files, Path.place file.name ≠ place := by
      rintro file hfile rfl
      exact h.free file hfile hdir
    rcases h.other place hother with hsame | ⟨hnone, -, -⟩
    · rw [hsame, hdir]
    · cases hdir.symm.trans hnone
  · intro place old hold
    by_cases hfile : ∃ file ∈ files, Path.place file.name = place
    · obtain ⟨file, hfile, rfl⟩ := hfile
      exact ⟨_, entry?_of_read (h.content file hfile)⟩
    · rcases h.other place (fun file hmem heq => hfile ⟨file, hmem, heq⟩) with
        hsame | ⟨hnone, -, -⟩
      · exact ⟨old, hsame.trans hold⟩
      · cases hold.symm.trans hnone

/-- If no file of the second turn replaces one of the first. -/
theorem append (h : Takes d files ways d₁) (h' : Takes d₁ files' ways' d₂)
    (hapart : ∀ file ∈ files, ∀ file' ∈ files', Path.place file'.name ≠ Path.place file.name) :
    Takes d (files ++ files') (ways ++ ways') d₂ := by
  constructor
  · refine List.forall_mem_append.mpr ⟨h.free, fun file hfile hdir => ?_⟩
    exact h'.free file hfile (h.keeps.directories _ hdir)
  · refine List.forall_mem_append.mpr ⟨fun file hfile => ?_, h'.content⟩
    have hfirst := entry?_of_read (h.content file hfile)
    refine h'.keeps.read (h.content file hfile) ?_
    rcases h'.other _ (hapart file hfile) with hsame | ⟨hnone, -, -⟩
    · exact hsame.trans hfirst
    · cases hfirst.symm.trans hnone
  · refine List.forall_mem_append.mpr ⟨fun file hfile place habove => ?_, h'.above⟩
    exact h'.keeps.directories place (h.above file hfile place habove)
  · intro place hother
    obtain ⟨hfirst, hsecond⟩ := List.forall_mem_append.mp hother
    rcases h'.other place hsecond with hsame' | ⟨hnone', hdir', way, hway, habove⟩
    · rw [hsame']
      rcases h.other place hfirst with hsame | ⟨hnone, hdir, way, hway, habove⟩
      · exact .inl hsame
      · exact .inr ⟨hnone, hdir, way, List.mem_append_left _ hway, habove⟩
    · rcases h.other place hfirst with hsame | ⟨-, hdir, -⟩
      · exact .inr ⟨hsame ▸ hnone', hdir', way, List.mem_append_right _ hway, habove⟩
      · cases hdir.symm.trans hnone'

end Takes

theorem Paves.takes {d d' : Disk} {path : String} (hup : Path.NeverUp path) (content : String)
    (h : Paves (Path.properSteps path).dropLast d d') : Takes d [] [⟨path, content⟩] d' := by
  refine ⟨nofun, nofun, nofun, fun place _ => ?_⟩
  by_cases hsame : d'.entry? place = d.entry? place
  · exact .inl hsame
  · obtain ⟨hnone, hdir, hway⟩ := h place hsame
    have hne : place ≠ [] := by
      rintro rfl
      cases hnone
    exact .inr ⟨hnone, hdir, _, List.mem_singleton_self _, Path.above_of_passes hup hne hway⟩

theorem write_takes {d d' : Disk} {path content : String}
    (h : d.write path content.toUTF8 = .ok d') : Takes d [⟨path, content⟩] [] d' := by
  obtain ⟨last, q, hlast, hq, -, hdir, -⟩ := write_eq_ok h
  have hopen : d.IsOpen q := enter_isOpen d.isOpen_nil hq
  have hplace : Path.place path = q ++ [last] :=
    (place_eq_move hlast hq).trans (move_eq_concat hopen hdir)
  obtain ⟨hne, hput⟩ := write_eq_put h
  constructor
  · rw [List.forall_mem_singleton, place_eq_move hlast hq]
    exact hdir
  · rw [List.forall_mem_singleton]
    exact read_eq_ok.mpr (write_find h)
  · rw [List.forall_mem_singleton]
    intro place habove
    rw [hplace, Path.above_concat] at habove
    exact (write_keeps h).directories place (hopen place habove)
  · intro place hother
    have hdiffers := List.forall_mem_singleton.mp hother
    rw [hput, entry?_put hne, if_neg (by simpa using hdiffers.symm)]
    exact .inl rfl

end Disk

/-! ## Writing files -/

theorem writeFile_takes (d : Disk) {path : String} (hup : Path.NeverUp path) (content : String) :
    (∃ made fault, d.Takes [] [⟨path, content⟩] made ∧
        writeFile d path content = (made, some fault)) ∨
      ∃ written, d.Takes [⟨path, content⟩] [⟨path, content⟩] written ∧
        writeFile d path content = (written, none) := by
  obtain ⟨made, fault, hdirs, h⟩ | ⟨made, written, hdirs, hw, h⟩ := writeFile_cases d path content
  · exact .inl ⟨made, fault, hdirs.takes hup content, h⟩
  · exact .inr ⟨written, (hdirs.takes hup content).append (Disk.write_takes hw) nofun, h⟩

/-- The first of the files that are left, if there is one, is the one that could not be written. -/
theorem writeAll_takes {d : Disk} {root : String} {files : List OutputFile}
    (hup : ∀ file ∈ files, Path.NeverUp (Path.join root file.name))
    (hn : (files.map fun file => Path.place (Path.join root file.name)).Nodup) :
    ∃ before left, files = before ++ left ∧ ((writeAll d root files).fault? = none ↔ left = []) ∧
      d.Takes (before.map (·.below root)) ((before ++ left.take 1).map (·.below root))
        (writeAll d root files).disk := by
  induction files generalizing d with
  | nil => exact ⟨[], [], rfl, ⟨fun _ => rfl, fun _ => rfl⟩, Disk.Takes.refl d⟩
  | cons file rest ih =>
    obtain ⟨hfirst, hups⟩ := List.forall_mem_cons.mp hup
    obtain ⟨hplace, hns⟩ := List.nodup_cons.mp hn
    obtain ⟨made, fault, htakes, h⟩ | ⟨written, htakes, h⟩ := writeFile_takes d hfirst file.content
    · rw [writeAll_cons, h]
      exact ⟨[], file :: rest, rfl, by simp, htakes⟩
    · rw [writeAll_cons, h]
      obtain ⟨before, left, rfl, hfault, hrest⟩ := ih (d := written) hups hns
      refine ⟨file :: before, left, rfl, hfault, htakes.append hrest ?_⟩
      -- no file behind this one goes to its place
      rw [List.forall_mem_singleton]
      intro other hother heq
      obtain ⟨out, hout, rfl⟩ := List.mem_map.mp hother
      exact hplace (List.mem_map.mpr ⟨out, List.mem_append_left left hout, heq⟩)

/-- If all files can be written, each holds its content, the places above them are directories, and
apart from these nothing is new or another. If not, the same holds of the files before the first
that cannot be written, but on the way to that one directories may be new, too. The place of every
file that is left is as it was, unless there was nothing: then there may be a directory now, because
it is on the way to one of those files. -/
theorem files_written_up_to_fault {d : Disk} {root : String} {files : List OutputFile}
    (hroot : Path.NeverUp root)
    (hnames : ∀ file ∈ files, Path.isAbsolute file.name = false ∧ Path.NeverUp file.name)
    (hn : (files.map fun file => Path.place file.name).Nodup) :
    ((writeAll d root files).fault? = none →
      d.Takes (files.map (·.below root)) (files.map (·.below root)) (writeAll d root files).disk) ∧
    ((writeAll d root files).fault? ≠ none →
      ∃ before file after, files = before ++ file :: after ∧
        d.Takes (before.map (·.below root)) ((before ++ [file]).map (·.below root))
          (writeAll d root files).disk ∧
        ∀ left ∈ (file :: after).map (·.below root),
          Disk.entry? (writeAll d root files).disk (Path.place left.name) =
              d.entry? (Path.place left.name) ∨
            d.entry? (Path.place left.name) = none ∧
              Disk.entry? (writeAll d root files).disk (Path.place left.name) = some .directory ∧
              ∃ way ∈ (before ++ [file]).map (·.below root),
                Path.Above (Path.place left.name) (Path.place way.name)) := by
  have hups : ∀ file ∈ files, Path.NeverUp (Path.join root file.name) :=
    fun file hfile => hroot.join (hnames file hfile).2
  have hplaces : (files.map fun file => Path.place (Path.join root file.name)).Nodup := by
    have hjoined : (files.map fun file => Path.place (Path.join root file.name)) =
        (files.map fun file => Path.place file.name).map (Path.place root ++ ·) := by
      rw [List.map_map]
      exact List.map_congr_left fun file hfile =>
        Path.place_join (hnames file hfile).1 (hnames file hfile).2
    rw [hjoined]
    exact hn.map fun _ _ => List.append_cancel_left
  obtain ⟨before, left, rfl, hfault, htakes⟩ := writeAll_takes (d := d) hups hplaces
  cases left with
  | nil =>
    rw [List.append_nil] at hfault ⊢
    rw [List.take_nil, List.append_nil] at htakes
    exact ⟨fun _ => htakes, fun hne => absurd (hfault.mpr rfl) hne⟩
  | cons file after =>
    have hne : file :: after ≠ [] := List.cons_ne_nil file after
    refine ⟨fun h => absurd (hfault.mp h) hne, fun _ => ⟨before, file, after, rfl, htakes, ?_⟩⟩
    rw [List.map_append, List.nodup_append] at hplaces
    intro left hleft
    obtain ⟨out, hout, rfl⟩ := List.mem_map.mp hleft
    refine htakes.other _ fun done hdone => ?_
    obtain ⟨first, hfirst, rfl⟩ := List.mem_map.mp hdone
    exact hplaces.2.2 _ (List.mem_map_of_mem hfirst) _ (List.mem_map_of_mem hout)

def reports : List OutputFile :=
  [⟨"far/off/a", "1"⟩, ⟨"sub/b", "2"⟩, ⟨"old", "3"⟩]

/-- The second lies below a file, and the third is where the first needs a directory. -/
def blockedReports : List OutputFile :=
  [⟨"far/a", "1"⟩, ⟨"old/b", "2"⟩, ⟨"far", "3"⟩]

theorem reports_taken :
    (writeAll oldDisk "out" reports).fault? = none ∧
      oldDisk.Takes (reports.map (·.below "out")) (reports.map (·.below "out"))
        (writeAll oldDisk "out" reports).disk ∧
      (writeAll oldDisk "out" blockedReports).fault? ≠ none ∧
      ∃ before file after, blockedReports = before ++ file :: after ∧
        oldDisk.Takes (before.map (·.below "out")) ((before ++ [file]).map (·.below "out"))
          (writeAll oldDisk "out" blockedReports).disk := by
  have hroot : Path.NeverUp "out" := by decide +kernel
  have hall : (writeAll oldDisk "out" reports).fault? = none := by decide +kernel
  have hblocked : (writeAll oldDisk "out" blockedReports).fault? ≠ none := by decide +kernel
  obtain ⟨htaken, -⟩ := @files_written_up_to_fault oldDisk "out" reports hroot
    (by decide +kernel) (by decide +kernel)
  obtain ⟨-, hstopped⟩ := @files_written_up_to_fault oldDisk "out" blockedReports hroot
    (by decide +kernel) (by decide +kernel)
  obtain ⟨before, file, after, hsplit, htakes, -⟩ := hstopped hblocked
  exact ⟨hall, htaken hall, hblocked, before, file, after, hsplit, htakes⟩

def nestedReports : List OutputFile := [⟨"a/b", "1"⟩, ⟨"a", "2"⟩]

def aliasReports : List OutputFile := [⟨"a/b", "1"⟩, ⟨"a//b", "2"⟩]

/-- Of two files one is left, and its place is not as it was, however many are taken to be written:
there is a directory now. And of two names that differ in a slash alone, the second replaces what
was written for the first. -/
theorem left_place_made_directory :
    (nestedReports.map (·.name)).Nodup ∧
      (writeAll {} "out" nestedReports).fault? = some .isDirectory ∧
      (∀ k ≤ nestedReports.length,
        ¬ ((∀ file ∈ (nestedReports.take k).map (·.below "out"),
              (writeAll {} "out" nestedReports).disk.read file.name = .ok file.content.toUTF8) ∧
            ∀ file ∈ (nestedReports.drop k).map (·.below "out"),
              Disk.entry? (writeAll {} "out" nestedReports).disk (Path.place file.name) =
                Disk.entry? {} (Path.place file.name))) ∧
      (aliasReports.map (·.name)).Nodup ∧
      (writeAll {} "out" aliasReports).fault? = none ∧
      (writeAll {} "out" aliasReports).disk.read "out/a/b" = .ok "2".toUTF8 := by
  decide +kernel

end Stencil
