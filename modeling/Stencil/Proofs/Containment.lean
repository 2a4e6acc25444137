import Stencil.Proofs.Detour

/-!
# Stencil.Proofs.Containment

Where files that are written below a directory can end up.

* `Path.Escapes` — names that lead out of the directory that they are joined to, if only on the way.
* `Affected`     — why the entry at a place is another one after files are written.
* `OutputFile.below` — a file named by its whole path.

A name is joined to the directory as it is, so a file can be written outside of it
(`climbing_name_replaces`), but only if its name escapes (`outside_only_by_escape`). A directory is
made wherever the steps of a path come past, which is why a name escapes also if it leads back in.
-/

namespace Stencil

open Disk (Passes)

/-! ## Names that escape -/

namespace Path

/-- Whether steps that start at some depth below a directory go up from the directory itself. -/
def climbs : Nat → List String → Bool
  | _, [] => false
  | depth, step :: rest =>
    if step = "." then climbs depth rest
    else if step = ".." then
      match depth with
      | 0 => true
      | above + 1 => climbs above rest
    else climbs (depth + 1) rest

def Escapes (name : String) : Prop :=
  isAbsolute name = true ∨ climbs 0 (steps name) = true

instance (name : String) : Decidable (Escapes name) :=
  inferInstanceAs (Decidable (_ ∨ _))

theorem not_escapes_iff {name : String} :
    ¬ Escapes name ↔ isAbsolute name = false ∧ climbs 0 (steps name) = false := by
  rw [Escapes, not_or, Bool.not_eq_true, Bool.not_eq_true]

/-- Joining the empty name asks for a directory, if for anything. -/
theorem join_empty (base : String) : join base "" = "" ∨ endsWithSlash (join base "") = true := by
  unfold join
  split
  · exact .inl rfl
  · split
    · rename_i hslash
      rw [String.append_empty]
      exact .inr hslash
    · right
      simp [endsWithSlash]

theorem eq_empty_of_steps {name : String} (h : isAbsolute name = false) (hsteps : steps name = []) :
    name = "" := by
  rw [← String.toList_inj]
  simp only [steps, List.map_eq_nil_iff] at hsteps
  cases hname : name.toList with
  | nil => rfl
  | cons c rest =>
    have hc : c ≠ '/' := by simpa [isAbsolute, hname] using h
    rw [hname, Text.splitOn, if_neg hc] at hsteps
    split at hsteps <;> simp at hsteps

theorem filter_properSteps (path : String) :
    (properSteps path).filter (· != ".") = (steps path).filter (· != ".") := by
  unfold properSteps
  split
  · rename_i hsteps
    rw [hsteps]
  · rename_i first rest hsteps
    rw [hsteps]
    split
    · rename_i hstay
      simp only [Bool.and_eq_true, beq_iff_eq] at hstay
      simp [hstay.1]
    · simp [List.filter_cons]

end Path

namespace Disk

theorem foldl_move_filter (steps place : List String) :
    (steps.filter (· != ".")).foldl move place = steps.foldl move place := by
  induction steps generalizing place with
  | nil => rfl
  | cons step rest ih =>
    by_cases hstay : step = "."
    · have hmove : move place step = place := by rw [move, if_pos hstay]
      rw [List.filter_cons_of_neg (by simpa using hstay), ih, List.foldl_cons, hmove]
    · rw [List.filter_cons_of_pos (by simpa using hstay), List.foldl_cons, List.foldl_cons, ih]

theorem passes_of_properSteps {path : String} {place : List String}
    (h : Passes (Path.properSteps path) place) : Passes (Path.steps path) place := by
  obtain ⟨front, hfront, hplace⟩ := h
  have hkept := hfront.filter (· != ".")
  rw [Path.filter_properSteps, List.prefix_filter_iff] at hkept
  obtain ⟨front', hfront', heq⟩ := hkept
  refine ⟨front', hfront', ?_⟩
  rw [← foldl_move_filter, ← heq, foldl_move_filter, hplace]

theorem Paves.onPath {d d' : Disk} {path : String}
    (h : Paves (Path.properSteps path).dropLast d d') : Paves (Path.steps path) d d' := by
  intro place hchange
  obtain ⟨hnone, hdir, hway⟩ := h place hchange
  exact ⟨hnone, hdir, passes_of_properSteps (hway.mono (List.dropLast_prefix _))⟩

/-- Steps that do not climb stay in the directory `base`. They start at `inner` below it. -/
theorem below_of_not_climbs {steps front : List String} (base inner : List String)
    (h : Path.climbs inner.length steps = false) (hfront : front <+: steps) :
    base <+: front.foldl move (base ++ inner) := by
  induction front generalizing steps inner with
  | nil => exact List.prefix_append base inner
  | cons step front ih =>
    obtain ⟨rest, rfl⟩ : ∃ rest, steps = step :: rest := by
      obtain ⟨tail, htail⟩ := hfront
      exact ⟨front ++ tail, htail.symm⟩
    have hrest : front <+: rest := (List.cons_prefix_cons.mp hfront).2
    rw [List.foldl_cons]
    simp only [Path.climbs] at h
    split at h
    · rename_i hstay
      rw [move, if_pos hstay]
      exact ih inner h hrest
    · rename_i hstay
      split at h
      · rename_i hup
        split at h
        · cases h
        · rename_i above hlen
          have hne : inner ≠ [] := by
            rintro rfl
            cases hlen
          have hdrop : inner.dropLast.length = above := by
            rw [List.length_dropLast, hlen, Nat.succ_sub_one]
          rw [move, if_neg hstay, if_pos hup, List.dropLast_append_of_ne_nil hne]
          exact ih inner.dropLast (by rw [hdrop]; exact h) hrest
      · rename_i hup
        rw [move, if_neg hstay, if_neg hup, List.append_assoc]
        exact ih (inner ++ [step]) (by simpa using h) hrest

/-- On the way to a name that does not escape, the directory comes first. -/
theorem passes_join {base name : String} {place : List String} (h : ¬ Path.Escapes name)
    (hway : Passes (Path.steps (Path.join base name)) place) :
    Passes (Path.steps base) place ∨ Path.place base <+: place := by
  obtain ⟨hrelative, hstays⟩ := Path.not_escapes_iff.mp h
  obtain ⟨front, hfront, rfl⟩ := hway
  rw [Path.steps_join_of_relative hrelative] at hfront
  rcases List.prefix_or_prefix_of_prefix hfront (List.prefix_append _ _) with hbase | ⟨rest, rfl⟩
  · exact .inl ⟨front, hbase, rfl⟩
  · right
    have hrest : rest <+: Path.steps name := (List.prefix_append_right_inj _).mp hfront
    have hbelow := below_of_not_climbs (Path.place base) [] hstays hrest
    rwa [List.append_nil, Path.place, ← List.foldl_append] at hbelow

/-- The directory itself is never written to: it has to be open for what comes after it. -/
theorem write_below {d d' : Disk} {base name : String} {content : ByteArray}
    (h : ¬ Path.Escapes name) (hw : d.write (Path.join base name) content = .ok d') :
    Path.place base <+: Path.place (Path.join base name) ∧
      Path.place (Path.join base name) ≠ Path.place base := by
  obtain ⟨hrelative, hstays⟩ := Path.not_escapes_iff.mp h
  obtain ⟨last, q, hlast, hq, hslash, hdir, -⟩ := write_eq_ok hw
  have hmove : move q last = q ++ [last] := move_eq_concat (enter_isOpen d.isOpen_nil hq) hdir
  have hsteps : Path.steps name ≠ [] := by
    intro hnil
    rw [Path.eq_empty_of_steps hrelative hnil] at hlast hslash
    rcases Path.join_empty base with hempty | hends
    · rw [hempty] at hlast
      cases hlast
    · rw [hends] at hslash
      cases hslash
  have hbelow : Path.place base <+: q := by
    have hway := below_of_not_climbs (Path.place base) [] hstays (List.dropLast_prefix _)
    rwa [List.append_nil, Path.place, ← List.foldl_append,
      ← List.dropLast_append_of_ne_nil hsteps, ← Path.steps_join_of_relative hrelative,
      ← enter_eq_foldl hq] at hway
  rw [place_eq_move hlast hq, hmove]
  refine ⟨hbelow.trans (List.prefix_append q [last]), ?_⟩
  intro heq
  have hlen := hbelow.length_le
  rw [← heq, List.length_append, List.length_singleton] at hlen
  omega

end Disk

/-! ## One file -/

/-- Why there may be another entry at a place when files are written below `root`. -/
inductive Affected (root : String) (files : List OutputFile) (d d' : Disk) (place : List String) :
    Prop where
  | below (inside : Path.place root <+: place) (proper : place ≠ Path.place root)
  | root (missing : d.entry? place = none) (made : d'.entry? place = some .directory)
      (way : Passes (Path.steps root) place)
  | escape {file : OutputFile} (mem : file ∈ files) (escapes : Path.Escapes file.name)
      (way : Passes (Path.steps (Path.join root file.name)) place)

theorem writeFile_changed {d : Disk} {path content : String} {place : List String}
    (hchange : Disk.entry? (writeFile d path content).1 place ≠ d.entry? place) :
    (d.entry? place = none ∧ Disk.entry? (writeFile d path content).1 place = some .directory ∧
        Passes (Path.steps path) place) ∨
      place = Path.place path ∧
        ∃ made written, Disk.write made path content.toUTF8 = .ok written := by
  obtain ⟨made, fault, hdirs, h⟩ | ⟨made, written, hdirs, hw, h⟩ := writeFile_cases d path content
  · rw [h] at hchange ⊢
    exact .inl (hdirs.onPath place hchange)
  · rw [h] at hchange ⊢
    by_cases hplace : place = Path.place path
    · exact .inr ⟨hplace, made, written, hw⟩
    · obtain ⟨hne, rfl⟩ := Disk.write_eq_put hw
      have hsame : Disk.entry? (made.put (Path.place path) (.file content.toUTF8)) place =
          made.entry? place := by
        rw [Disk.entry?_put hne, if_neg (by simpa using hplace)]
      rw [hsame] at hchange ⊢
      exact .inl (hdirs.onPath place hchange)

theorem writeFile_affected (d : Disk) (root : String) (place : List String) {file : OutputFile}
    {files : List OutputFile} (hfile : file ∈ files)
    (hchange : Disk.entry? (writeFile d (Path.join root file.name) file.content).1 place ≠
      d.entry? place) :
    Affected root files d (writeFile d (Path.join root file.name) file.content).1 place := by
  by_cases hescape : Path.Escapes file.name
  · refine .escape hfile hescape ?_
    rcases writeFile_changed hchange with ⟨-, -, hway⟩ | ⟨rfl, -⟩
    · exact hway
    · exact ⟨_, List.prefix_rfl, rfl⟩
  · rcases writeFile_changed hchange with ⟨hnone, hdir, hway⟩ | ⟨rfl, made, written, hw⟩
    · rcases Disk.passes_join hescape hway with hroot | hbelow
      · exact .root hnone hdir hroot
      · by_cases hplace : place = Path.place root
        · exact .root hnone hdir ⟨_, List.prefix_rfl, hplace.symm⟩
        · exact .below hbelow hplace
    · obtain ⟨hbelow, hne⟩ := Disk.write_below hescape hw
      exact .below hbelow hne

/-! ## All files -/

section

variable {root : String} {files : List OutputFile} {d made d' : Disk} {place : List String}

theorem Affected.later (h : Affected root files d made place) (hkeeps : Disk.Keeps made d') :
    Affected root files d d' place := by
  cases h with
  | below inside proper => exact .below inside proper
  | root missing made way => exact .root missing (hkeeps.directories place made) way
  | escape mem escapes way => exact .escape mem escapes way

theorem Affected.earlier (h : Affected root files made d' place) (first : OutputFile)
    (hsame : made.entry? place = d.entry? place) : Affected root (first :: files) d d' place := by
  cases h with
  | below inside proper => exact .below inside proper
  | root missing made way => exact .root (hsame ▸ missing) made way
  | escape mem escapes way => exact .escape (List.mem_cons_of_mem _ mem) escapes way

end

theorem writeAll_affected {d : Disk} {root : String} {files : List OutputFile}
    {place : List String}
    (hchange : Disk.entry? (writeAll d root files).disk place ≠ d.entry? place) :
    Affected root files d (writeAll d root files).disk place := by
  induction files generalizing d with
  | nil => exact absurd rfl hchange
  | cons file rest ih =>
    have hfirst := writeFile_affected d root place (List.mem_cons_self (a := file) (l := rest))
    rw [writeAll_cons] at hchange ⊢
    split at hchange
    · rename_i made fault hmade
      rw [hmade] at hfirst
      exact hfirst hchange
    · rename_i made hmade
      rw [hmade] at hfirst
      by_cases hsame : made.entry? place = d.entry? place
      · exact (ih (by rwa [hsame])).earlier file hsame
      · exact (hfirst hsame).later (writeAll_keeps made root rest)

/-- The last of the written files that arrive at a place is the one that is found there. -/
theorem entry?_of_lastAt? {d : Disk} {root : String} {files : List OutputFile}
    {place : List String} {content : ByteArray}
    (h : lastAt? place (writeAll d root files).files = some content) :
    Disk.entry? (writeAll d root files).disk place = some (.file content) := by
  induction files generalizing d with
  | nil => cases h
  | cons first rest ih =>
    obtain ⟨made, fault, -, hfirst⟩ | ⟨made, written, -, hw, hfirst⟩ :=
      writeFile_cases d (Path.join root first.name) first.content
    · rw [writeAll_cons, hfirst] at h
      cases h
    · rw [writeAll_cons, hfirst] at h ⊢
      rw [lastAt?_cons] at h
      split at h
      · rename_i hplace
        obtain ⟨hne, rfl⟩ := Disk.write_eq_put hw
        have hput : Disk.entry? (made.put (Path.place (Path.join root first.name))
            (.file first.content.toUTF8)) place = some (.file first.content.toUTF8) := by
          rw [Disk.entry?_put hne, if_pos (beq_iff_eq.mpr hplace.symm)]
        rw [← Option.some.inj h]
        exact writeAll_entry? hput
      · exact ih h

def OutputFile.below (root : String) (file : OutputFile) : OutputFile :=
  ⟨Path.join root file.name, file.content⟩

theorem written_prefix (d : Disk) (root : String) (files : List OutputFile) :
    (writeAll d root files).files <+: files.map (OutputFile.below root) := by
  induction files generalizing d with
  | nil => exact List.prefix_rfl
  | cons file rest ih =>
    rw [writeAll_cons]
    split
    · exact List.nil_prefix
    · exact List.cons_prefix_cons.mpr ⟨rfl, ih _⟩

theorem written_all {d : Disk} {root : String} {files : List OutputFile}
    (h : (writeAll d root files).fault? = none) :
    (writeAll d root files).files = files.map (OutputFile.below root) := by
  induction files generalizing d with
  | nil => rfl
  | cons file rest ih =>
    rw [writeAll_cons] at h ⊢
    split at h
    · cases h
    · exact congrArg (file.below root :: ·) (ih h)

/-- Whatever the names are, and whether or not all files can be written: there is another entry only
below the directory, on the way to it where a directory was missing, and on the way of a name that
escapes. What is written lies where the whole paths lead to, also outside. Files are written in
order, and all of them unless there is a failure. -/
theorem outside_only_by_escape (d : Disk) (root : String) (files : List OutputFile) :
    (∀ place, Disk.entry? (writeAll d root files).disk place ≠ d.entry? place →
      Affected root files d (writeAll d root files).disk place) ∧
    (∀ place content, lastAt? place (writeAll d root files).files = some content →
      Disk.entry? (writeAll d root files).disk place = some (.file content)) ∧
    (writeAll d root files).files <+: files.map (OutputFile.below root) ∧
    ((writeAll d root files).fault? = none →
      (writeAll d root files).files = files.map (OutputFile.below root)) :=
  ⟨fun _ => writeAll_affected, fun _ _ => entry?_of_lastAt?, written_prefix d root files,
    written_all⟩

/-- A name that goes up no further than it went down stays in a directory that is made for it. -/
theorem inner_name_contained :
    (writeAll oldDisk "gen/./ts" [⟨"a/../b", "text"⟩]).fault? = none ∧
      Disk.entry? (writeAll oldDisk "gen/./ts" [⟨"a/../b", "text"⟩]).disk ["gen", "ts", "b"] =
        some (.file "text".toUTF8) ∧
      ∀ place, Disk.entry? (writeAll oldDisk "gen/./ts" [⟨"a/../b", "text"⟩]).disk place ≠
          oldDisk.entry? place →
        ["gen", "ts"] <+: place ∨ oldDisk.entry? place = none ∧
          Disk.Passes ["gen", ".", "ts"] place := by
  refine ⟨by decide +kernel, by decide +kernel, fun place hchange => ?_⟩
  have hroot : Path.place "gen/./ts" = ["gen", "ts"] := by decide +kernel
  have hsteps : Path.steps "gen/./ts" = ["gen", ".", "ts"] := by decide +kernel
  cases (outside_only_by_escape oldDisk "gen/./ts" [⟨"a/../b", "text"⟩]).1 place hchange with
  | below inside _ => exact .inl (hroot ▸ inside)
  | root missing _ way => exact .inr ⟨missing, hsteps ▸ way⟩
  | escape mem escapes _ =>
    rw [List.mem_singleton.mp mem] at escapes
    exact absurd escapes (by decide +kernel)

/-- Below `out/sub` a name that goes up replaces a file beside `sub`, and a name that stands on its
own is written beside `out`. -/
theorem climbing_name_replaces :
    oldDisk.entry? ["out", "old"] = some (.file "old".toUTF8) ∧
      ¬ Path.place "out/sub" <+: ["out", "old"] ∧
      (writeAll oldDisk "out/sub" [⟨"../old", "text"⟩, ⟨"/new", "text"⟩]).fault? = none ∧
      Disk.entry? (writeAll oldDisk "out/sub" [⟨"../old", "text"⟩, ⟨"/new", "text"⟩]).disk
        ["out", "old"] = some (.file "text".toUTF8) ∧
      Disk.entry? (writeAll oldDisk "out/sub" [⟨"../old", "text"⟩, ⟨"/new", "text"⟩]).disk
        ["new"] = some (.file "text".toUTF8) := by
  decide +kernel

end Stencil
