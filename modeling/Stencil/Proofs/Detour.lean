import Stencil.Proofs.Rerun

/-!
# Stencil.Proofs.Detour

What becomes of the files that were there before a run that overwrites nothing.

* `Path.place`   — where a path arrives when every directory on its way is there.
* `Disk.Detour`  — a path that goes up again behind a directory that is missing.
* `lastAt?`      — the content of the last of some files that arrives at a place.
* `writeNew`     — rendered files on the disk, where nothing is overwritten.

Whether a path leads to anything is asked before the directories on its way are made. A detour leads
nowhere then and may arrive at an old file afterwards (`detour_replaces`); no other path does
(`old_files_behind_detours`).
-/

namespace Stencil

def Path.place (path : String) : List String :=
  (steps path).foldl Disk.move []

namespace Disk

theorem place_eq_move {d : Disk} {path last : String} {q : List String}
    (hlast : (Path.steps path).getLast? = some last)
    (hq : d.enter [] (Path.steps path).dropLast = .ok q) : Path.place path = move q last :=
  foldl_eq_move hlast hq

/-! ## Reading and writing at a place -/

theorem read_eq_ok {d : Disk} {path : String} {content : ByteArray} :
    d.read path = .ok content ↔ d.find path = .ok (.file content) := by
  simp only [read]
  constructor
  · intro h
    split at h
    · cases h
    · cases h
    · rename_i found hfound
      cases h
      exact hfound
  · intro h
    rw [h]

theorem entry?_of_read {d : Disk} {path : String} {content : ByteArray}
    (h : d.read path = .ok content) : d.entry? (Path.place path) = some (.file content) := by
  obtain ⟨last, q, hlast, hq, -, hfile⟩ := find_eq_file.mp (read_eq_ok.mp h)
  rw [place_eq_move hlast hq]
  exact hfile

/-- The way to a file stays open, so what is read there is what lies at its place. -/
theorem Keeps.read {d d' : Disk} (h : Keeps d d') {path : String} {old new : ByteArray}
    (hold : d.read path = .ok old) (hnew : d'.entry? (Path.place path) = some (.file new)) :
    d'.read path = .ok new := by
  obtain ⟨last, q, hlast, hq, hslash, -⟩ := find_eq_file.mp (read_eq_ok.mp hold)
  rw [place_eq_move hlast hq] at hnew
  exact read_eq_ok.mpr (find_eq_file.mpr ⟨last, q, hlast, h.enter hq, hslash, hnew⟩)

theorem write_eq_put {d d' : Disk} {path : String} {content : ByteArray}
    (h : d.write path content = .ok d') :
    Path.place path ≠ [] ∧ d' = d.put (Path.place path) (.file content) := by
  obtain ⟨last, q, hlast, hq, -, hdir, rfl⟩ := write_eq_ok h
  have hplace := place_eq_move hlast hq
  refine ⟨?_, by rw [hplace]⟩
  rintro hnil
  rw [← hplace, hnil] at hdir
  exact hdir d.entry?_nil

/-! ## Detours -/

structure Detour (d : Disk) (path : String) : Prop where
  up : ".." ∈ (Path.steps path).dropLast
  missing : d.enter [] (Path.steps path).dropLast = .error .notFound

theorem detour_iff {d : Disk} {path : String} :
    d.Detour path ↔ ".." ∈ (Path.steps path).dropLast ∧
      d.enter [] (Path.steps path).dropLast = .error .notFound :=
  ⟨fun h => ⟨h.up, h.missing⟩, fun h => ⟨h.1, h.2⟩⟩

instance (d : Disk) (path : String) : Decidable (d.Detour path) :=
  decidable_of_iff _ detour_iff.symm

/-- A way is blocked by what is missing on it or by a file. A file stays one, so what it blocks is
blocked for good. -/
theorem Keeps.enter_error {d d' : Disk} (h : Keeps d d') {steps place q : List String}
    {e : DiskFault} (he : d.enter place steps = .error e) (hq : d'.enter place steps = .ok q) :
    e = .notFound := by
  induction steps generalizing place with
  | nil => cases he
  | cons step rest ih =>
    simp only [Disk.enter] at he hq
    split at he
    · rename_i hdir
      rw [h.directories _ hdir] at hq
      exact ih he hq
    · rename_i content hfile
      obtain ⟨content', hfile'⟩ := h.files _ content hfile
      rw [hfile'] at hq
      cases hq
    · cases he
      rfl

/-- A path that led nowhere can be written to where an old file is only if it is a detour. -/
theorem detour_of_write {d₀ d d' : Disk} {path other : String} {content old : ByteArray}
    (h : Keeps d₀ d) (hnew : d₀.exists? path = false) (hw : d.write path content = .ok d')
    (hold : d₀.read other = .ok old) (hplace : Path.place path = Path.place other) :
    d₀.Detour path := by
  obtain ⟨last, q, hlast, hq, hslash, hdir, -⟩ := write_eq_ok hw
  have hfile : d₀.entry? (move q last) = some (.file old) := by
    rw [← place_eq_move hlast hq, hplace]
    exact entry?_of_read hold
  -- if the way had been open before, the path would have led to the old file
  have hclosed : ∀ q₀, d₀.enter [] (Path.steps path).dropLast ≠ .ok q₀ := by
    intro q₀ hq₀
    cases (h.enter hq₀).symm.trans hq
    have hfound := find_eq_file.mpr ⟨last, q, hlast, hq₀, hslash, hfile⟩
    rw [exists?, hfound] at hnew
    cases hnew
  have hmissing : d₀.enter [] (Path.steps path).dropLast = .error .notFound := by
    cases hway : d₀.enter [] (Path.steps path).dropLast with
    | error e => rw [h.enter_error hway hq]
    | ok q₀ => exact absurd hway (hclosed q₀)
  refine ⟨Classical.not_not.mp fun hup => ?_, hmissing⟩
  -- without a step up the way spells the place, which was open because the old file lies there
  obtain ⟨last', q', hlast', hq', -, hfile'⟩ := find_eq_file.mp (read_eq_ok.mp hold)
  have hopen : d₀.IsOpen q' := enter_isOpen d₀.isOpen_nil hq'
  have hmove : move q last = q ++ [last] := move_eq_concat (enter_isOpen d.isOpen_nil hq) hdir
  have hmove' : move q' last' = q' ++ [last'] := move_eq_concat hopen (by simp [hfile'])
  have hsame : q ++ [last] = q' ++ [last'] := by
    rw [← hmove, ← hmove', ← place_eq_move hlast hq, ← place_eq_move hlast' hq', hplace]
  obtain ⟨rfl, -⟩ := List.append_inj' hsame rfl
  have hspelled := enter_neverUp hup hq
  rw [hspelled] at hopen
  exact hclosed _ (enter_of_isOpen hup hopen)

end Disk

/-! ## Writing several files -/

open Disk (Keeps)

def lastAt? (place : List String) (files : List OutputFile) : Option ByteArray :=
  (files.filter fun file => Path.place file.name == place).getLast?.map (·.content.toUTF8)

theorem lastAt?_cons (place : List String) (file : OutputFile) (rest : List OutputFile) :
    lastAt? place (file :: rest) =
      if Path.place file.name = place then
        some ((lastAt? place rest).getD file.content.toUTF8)
      else lastAt? place rest := by
  simp only [lastAt?]
  by_cases hplace : Path.place file.name = place
  · rw [List.filter_cons_of_pos (by simpa using hplace), List.getLast?_cons, if_pos hplace]
    cases (rest.filter fun file => Path.place file.name == place).getLast? <;> rfl
  · rw [List.filter_cons_of_neg (by simpa using hplace), if_neg hplace]

theorem writeFile_entry? {d : Disk} {place : List String} {old : ByteArray}
    (hold : d.entry? place = some (.file old)) (path content : String) :
    Disk.entry? (writeFile d path content).1 place =
      some (.file (if (writeFile d path content).2 = none ∧ Path.place path = place then
        content.toUTF8 else old)) := by
  obtain ⟨made, fault, hdirs, h⟩ | ⟨made, written, hdirs, hw, h⟩ := writeFile_cases d path content
  · rw [h, if_neg (by simp)]
    exact hdirs.extends place _ hold
  · obtain ⟨hne, rfl⟩ := Disk.write_eq_put hw
    simp only [h, true_and]
    rw [Disk.entry?_put hne]
    by_cases hplace : Path.place path = place
    · rw [if_pos hplace, if_pos (beq_iff_eq.mpr hplace.symm)]
    · rw [if_neg hplace, if_neg (fun heq => hplace (eq_of_beq heq).symm)]
      exact hdirs.extends place _ hold

/-- Also where writing stops halfway. -/
theorem writeAll_entry? {d : Disk} {root : String} {files : List OutputFile}
    {place : List String} {old : ByteArray} (hold : d.entry? place = some (.file old)) :
    Disk.entry? (writeAll d root files).disk place =
      some (.file ((lastAt? place (writeAll d root files).files).getD old)) := by
  induction files generalizing d old with
  | nil => exact hold
  | cons file rest ih =>
    have hfile := writeFile_entry? hold (Path.join root file.name) file.content
    rw [writeAll_cons]
    split
    · rename_i made fault hmade
      rw [hmade] at hfile
      exact hfile
    · rename_i made hmade
      rw [hmade] at hfile
      have hrest := ih hfile
      simp only [true_and] at hrest
      rw [lastAt?_cons, hrest]
      split <;> rfl

theorem mem_written {d : Disk} {root : String} {files : List OutputFile} :
    ∀ file ∈ (writeAll d root files).files, (∃ out ∈ files, file.name = Path.join root out.name) ∧
      ∃ before after, Keeps d before ∧ before.write file.name file.content.toUTF8 = .ok after := by
  induction files generalizing d with
  | nil =>
    intro file hfile
    cases hfile
  | cons first rest ih =>
    intro file hfile
    obtain ⟨made, fault, -, h⟩ | ⟨made, written, hdirs, hw, h⟩ :=
      writeFile_cases d (Path.join root first.name) first.content
    · rw [writeAll_cons, h] at hfile
      cases hfile
    · rw [writeAll_cons, h] at hfile
      rcases List.mem_cons.mp hfile with rfl | hfile
      · exact ⟨⟨first, List.mem_cons_self, rfl⟩, made, written, hdirs.extends.keeps, hw⟩
      · obtain ⟨⟨out, hout, hname⟩, before, after, hkeeps, hwrite⟩ := ih file hfile
        have hfirst : Keeps d written := hdirs.extends.keeps.trans (Disk.write_keeps hw)
        exact ⟨⟨out, List.mem_cons_of_mem _ hout, hname⟩, before, after, hfirst.trans hkeeps, hwrite⟩

def writeNew (disk : Disk) (root : String) (files : List RenderedFile) : Written :=
  writeAll disk root (collect disk root false files)

theorem detour_of_mem_written {d : Disk} {path : String} {old : ByteArray}
    (hold : d.read path = .ok old) (root : String) (files : List RenderedFile) :
    ∀ file ∈ (writeNew d root files).files, Path.place file.name = Path.place path →
      d.Detour file.name ∧ ∃ made ∈ files, file.name = Path.join root made.path := by
  intro file hfile hplace
  obtain ⟨⟨out, hout, hname⟩, before, after, hkeeps, hw⟩ := mem_written file hfile
  obtain ⟨hnew, made, hmade, hpath⟩ := mem_kept out hout
  rw [hname] at hw hplace ⊢
  exact ⟨Disk.detour_of_write hkeeps hnew hw hold hplace, made, hmade, by rw [hpath]⟩

/-- Where nothing is overwritten, and whether all files could be written or not, an old file holds
what the last written file that arrives at its place brought there, and only a detour arrives there.
So every old file is as it was, unless a rendered path is a detour. -/
theorem old_files_behind_detours {d : Disk} {path : String} {old : ByteArray}
    (hold : d.read path = .ok old) (root : String) (files : List RenderedFile) :
    (writeNew d root files).disk.read path =
        .ok ((lastAt? (Path.place path) (writeNew d root files).files).getD old) ∧
      (∀ file ∈ (writeNew d root files).files,
        Path.place file.name = Path.place path → d.Detour file.name) ∧
      ((∀ file ∈ files, ¬ d.Detour (Path.join root file.path)) →
        (writeNew d root files).disk.read path = .ok old) := by
  have hread : (writeNew d root files).disk.read path =
      .ok ((lastAt? (Path.place path) (writeNew d root files).files).getD old) := by
    apply (writeAll_keeps d root _).read hold
    exact writeAll_entry? (Disk.entry?_of_read hold)
  have hdetour := detour_of_mem_written hold root files
  refine ⟨hread, fun file hfile hplace => (hdetour file hfile hplace).1, ?_⟩
  intro hnone
  have hlast : lastAt? (Path.place path) (writeNew d root files).files = none := by
    rw [lastAt?, Option.map_eq_none_iff, List.getLast?_eq_none_iff, List.filter_eq_nil_iff]
    intro file hfile hplace
    obtain ⟨hfound, made, hmade, hname⟩ := hdetour file hfile (eq_of_beq hplace)
    rw [hname] at hfound
    exact hnone made hmade hfound
  rw [hread, hlast, Option.getD_none]

def oldDisk : Disk :=
  ⟨[(["out"], .directory), (["out", "sub"], .directory), (["out", "old"], .file "old".toUTF8)]⟩

def aliases : List RenderedFile :=
  [⟨"./old", "1"⟩, ⟨"sub/../old", "2"⟩, ⟨"sub/../new", "3"⟩, ⟨"far/off/old", "4"⟩]

/-- Paths that stay where they are, that go up behind a directory that is there, and that go through
one that is missing leave the old file alone. -/
theorem old_file_left_alone :
    oldDisk.read "out/old" = .ok "old".toUTF8 ∧
      collect oldDisk "out" false aliases = [⟨"sub/../new", "3"⟩, ⟨"far/off/old", "4"⟩] ∧
      (writeNew oldDisk "out" aliases).fault? = none ∧
      (writeNew oldDisk "out" aliases).disk.read "out/old" = .ok "old".toUTF8 := by
  have hold : oldDisk.read "out/old" = .ok "old".toUTF8 := by decide +kernel
  refine ⟨hold, by decide +kernel, by decide +kernel, ?_⟩
  exact (old_files_behind_detours hold "out" aliases).2.2 (by decide +kernel)

/-- The missing directory is made on the way, and behind it the path leads to the old file. -/
theorem detour_replaces :
    oldDisk.read "out/old" = .ok "old".toUTF8 ∧
      oldDisk.exists? "out/new/../old" = false ∧
      (writeNew oldDisk "out" [⟨"new/../old", "text"⟩]).fault? = none ∧
      (writeNew oldDisk "out" [⟨"new/../old", "text"⟩]).disk.read "out/old" =
        .ok "text".toUTF8 := by
  decide +kernel

end Stencil
