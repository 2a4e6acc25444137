import Stencil.Output

/-!
# Stencil.Proofs.Collecting

The rendered files that are kept.

* `mem_kept_iff`               — which files are kept: the first of each path that is free.
* `kept_sublist`, `kept_nodup` — they stay in order, and no two have one path.
* `kept_repeated`              — a file whose path was seen before might as well not be there.
* `kept_eq_self`               — files of different free paths are all kept.

A path is seen from its first file on, whether that file is kept or not. So every lemma is an
induction on the files for any paths seen before them, with `kept_cons` as its step;
`collect_keeps_firsts` is the case in which no path was seen.
-/

namespace Stencil

def OutputFile.rendered (out : OutputFile) : RenderedFile :=
  ⟨out.name, out.content⟩

variable {exist : String → Bool} {overwrite : Bool}

theorem kept_cons (exist : String → Bool) (overwrite : Bool) (seen : List String)
    (file : RenderedFile) (rest : List RenderedFile) :
    kept (verdictsAfter exist overwrite seen (file :: rest)) =
      if file.path ∉ seen ∧ (overwrite = true ∨ exist file.path = false) then
        ⟨file.path, file.content⟩ :: kept (verdictsAfter exist overwrite (file.path :: seen) rest)
      else kept (verdictsAfter exist overwrite (file.path :: seen) rest) := by
  simp only [verdictsAfter, kept]
  by_cases hseen : file.path ∈ seen
  · simp [hseen]
  · cases exist file.path <;> cases overwrite <;> simp [hseen]

theorem mem_kept_iff {seen : List String} {files : List RenderedFile} {out : OutputFile} :
    out ∈ kept (verdictsAfter exist overwrite seen files) ↔
      out.name ∉ seen ∧ (overwrite = true ∨ exist out.name = false) ∧
        files.find? (·.path == out.name) = some out.rendered := by
  induction files generalizing seen with
  | nil => simp [verdictsAfter, kept]
  | cons file rest ih =>
    rw [kept_cons, List.find?_cons]
    by_cases hname : file.path = out.name
    · -- the files behind this one have no say any more
      have hrest : out ∉ kept (verdictsAfter exist overwrite (file.path :: seen) rest) :=
        fun hmem => (ih.mp hmem).1 (hname ▸ List.mem_cons_self)
      have hout : out = ⟨file.path, file.content⟩ ↔ some file = some out.rendered := by
        obtain ⟨path, content⟩ := file
        obtain ⟨name, text⟩ := out
        simp [OutputFile.rendered, eq_comm]
      rw [beq_iff_eq.mpr hname, ← hname]
      split
      · rename_i hkeep
        rw [List.mem_cons, or_iff_left hrest, hout]
        simp [hkeep]
      · rename_i hdrop
        simp only [hrest, false_iff]
        exact fun ⟨hseen, hwrite, _⟩ => hdrop ⟨hseen, hwrite⟩
    · have hout : out ≠ ⟨file.path, file.content⟩ := fun heq => hname (heq ▸ rfl)
      rw [beq_false_of_ne hname]
      split
      · rw [List.mem_cons, or_iff_right hout, ih, List.mem_cons, not_or, and_assoc,
          and_iff_right (Ne.symm hname)]
      · rw [ih, List.mem_cons, not_or, and_assoc, and_iff_right (Ne.symm hname)]

theorem mem_kept {seen : List String} {files : List RenderedFile} :
    ∀ out ∈ kept (verdictsAfter exist false seen files),
      exist out.name = false ∧ ∃ file ∈ files, file.path = out.name := by
  intro out hout
  obtain ⟨-, hwrite, hfind⟩ := mem_kept_iff.mp hout
  exact ⟨hwrite.resolve_left Bool.false_ne_true, _, List.mem_of_find?_eq_some hfind, rfl⟩

theorem path_mem_kept_iff {seen : List String} {files : List RenderedFile} {file : RenderedFile}
    (hfile : file ∈ files) :
    file.path ∈ (kept (verdictsAfter exist overwrite seen files)).map (·.name) ↔
      file.path ∉ seen ∧ (overwrite = true ∨ exist file.path = false) := by
  rw [List.mem_map]
  constructor
  · rintro ⟨out, hout, hname⟩
    obtain ⟨hseen, hwrite, -⟩ := mem_kept_iff.mp hout
    exact hname ▸ ⟨hseen, hwrite⟩
  · rintro ⟨hseen, hwrite⟩
    obtain ⟨first, hfirst⟩ := Option.isSome_iff_exists.mp
      (List.find?_isSome.mpr ⟨file, hfile, by simp⟩ : (files.find? (·.path == file.path)).isSome)
    have hpath : first.path = file.path := by simpa using List.find?_some hfirst
    refine ⟨⟨file.path, first.content⟩, mem_kept_iff.mpr ⟨hseen, hwrite, ?_⟩, rfl⟩
    rw [hfirst, OutputFile.rendered, ← hpath]

/-- A file is dropped as repeated only after another of its path was judged, which was kept unless
there was something already. -/
theorem exists_or_kept (exist : String → Bool) (seen : List String) (files : List RenderedFile) :
    ∀ file ∈ files, file.path ∈ seen ∨ exist file.path = true ∨
      ∃ out ∈ kept (verdictsAfter exist false seen files), out.name = file.path := by
  intro file hfile
  by_cases hseen : file.path ∈ seen
  · exact .inl hseen
  · cases hexist : exist file.path with
    | true => exact .inr (.inl rfl)
    | false =>
      exact .inr (.inr (List.mem_map.mp ((path_mem_kept_iff hfile).mpr ⟨hseen, .inr hexist⟩)))

theorem kept_sublist (seen : List String) (files : List RenderedFile) :
    ((kept (verdictsAfter exist overwrite seen files)).map OutputFile.rendered).Sublist files := by
  induction files generalizing seen with
  | nil => exact List.Sublist.slnil
  | cons file rest ih =>
    rw [kept_cons]
    split
    · exact (ih (file.path :: seen)).cons_cons file
    · exact (ih (file.path :: seen)).cons file

theorem kept_nodup (seen : List String) (files : List RenderedFile) :
    ((kept (verdictsAfter exist overwrite seen files)).map (·.name)).Nodup := by
  induction files generalizing seen with
  | nil => exact List.nodup_nil
  | cons file rest ih =>
    rw [kept_cons]
    split
    · refine List.nodup_cons.mpr ⟨?_, ih (file.path :: seen)⟩
      intro hmem
      obtain ⟨out, hout, hname⟩ := List.mem_map.mp hmem
      exact (mem_kept_iff.mp hout).1 (hname ▸ List.mem_cons_self)
    · exact ih (file.path :: seen)

/-- Neither the order of the paths seen before nor how often each was seen plays a part. -/
theorem verdictsAfter_congr {seen seen' : List String} (h : ∀ path, path ∈ seen ↔ path ∈ seen')
    (files : List RenderedFile) :
    verdictsAfter exist overwrite seen files = verdictsAfter exist overwrite seen' files := by
  induction files generalizing seen seen' with
  | nil => rfl
  | cons file rest ih =>
    have hcontains : seen.contains file.path = seen'.contains file.path := by
      rw [Bool.eq_iff_iff, List.contains_iff_mem, List.contains_iff_mem, h]
    have hcons : ∀ path, path ∈ file.path :: seen ↔ path ∈ file.path :: seen' := by
      intro path
      rw [List.mem_cons, List.mem_cons, h]
    rw [verdictsAfter, verdictsAfter, hcontains, ih hcons]

theorem kept_repeated {seen : List String} {file : RenderedFile} (before after : List RenderedFile)
    (h : file.path ∈ seen ∨ file.path ∈ before.map (·.path)) :
    kept (verdictsAfter exist overwrite seen (before ++ file :: after)) =
      kept (verdictsAfter exist overwrite seen (before ++ after)) := by
  induction before generalizing seen with
  | nil =>
    have hseen : file.path ∈ seen := h.resolve_right List.not_mem_nil
    have hcons : ∀ path, path ∈ file.path :: seen ↔ path ∈ seen := by
      intro path
      rw [List.mem_cons, or_iff_right_of_imp (fun hpath => hpath ▸ hseen)]
    rw [List.nil_append, List.nil_append, kept_cons, if_neg (fun hkeep => hkeep.1 hseen),
      verdictsAfter_congr hcons]
  | cons first rest ih =>
    have hrest : file.path ∈ first.path :: seen ∨ file.path ∈ rest.map (·.path) := by
      rcases h with hseen | hpath
      · exact .inl (List.mem_cons_of_mem _ hseen)
      · rcases List.mem_cons.mp hpath with hfirst | hrest
        · exact .inl (hfirst ▸ List.mem_cons_self)
        · exact .inr hrest
    rw [List.cons_append, List.cons_append, kept_cons, kept_cons, ih hrest]

theorem kept_eq_self {seen : List String} {outs : List OutputFile}
    (hn : (outs.map (·.name)).Nodup) (hnew : ∀ out ∈ outs, out.name ∉ seen)
    (hwrite : ∀ out ∈ outs, overwrite = true ∨ exist out.name = false) :
    kept (verdictsAfter exist overwrite seen (outs.map OutputFile.rendered)) = outs := by
  induction outs generalizing seen with
  | nil => rfl
  | cons out rest ih =>
    obtain ⟨hname, hrest⟩ := List.nodup_cons.mp hn
    obtain ⟨hseen, hnews⟩ := List.forall_mem_cons.mp hnew
    obtain ⟨hopen, hwrites⟩ := List.forall_mem_cons.mp hwrite
    have hcons : ∀ other ∈ rest, other.name ∉ out.name :: seen := by
      intro other hother hmem
      rcases List.mem_cons.mp hmem with heq | hmem
      · exact hname (List.mem_map.mpr ⟨other, hother, heq⟩)
      · exact hnews other hother hmem
    rw [List.map_cons, kept_cons, if_pos ⟨hseen, hopen⟩]
    exact congrArg (out :: ·) (ih hrest hcons hwrites)

/-- The files to be written are rendered files in their order, no two with one path. A file is among
them if and only if it is the first of its path, and nothing is at that path or files are
overwritten. So a path is left out only for what is there already, and a later file of a path
changes nothing, whatever became of the first. What was collected is collected again as it is. -/
theorem collect_keeps_firsts (disk : Disk) (root : String) (overwrite : Bool)
    (files : List RenderedFile) :
    ((collect disk root overwrite files).map OutputFile.rendered).Sublist files ∧
      ((collect disk root overwrite files).map (·.name)).Nodup ∧
      (∀ path content, ⟨path, content⟩ ∈ collect disk root overwrite files ↔
        files.find? (·.path == path) = some ⟨path, content⟩ ∧
          (overwrite = true ∨ disk.exists? (Path.join root path) = false)) ∧
      (∀ file ∈ files, file.path ∈ (collect disk root overwrite files).map (·.name) ↔
        overwrite = true ∨ disk.exists? (Path.join root file.path) = false) ∧
      (∀ before file after, files = before ++ file :: after →
        file.path ∈ before.map (·.path) →
          collect disk root overwrite files = collect disk root overwrite (before ++ after)) ∧
      collect disk root overwrite ((collect disk root overwrite files).map OutputFile.rendered) =
        collect disk root overwrite files := by
  have hmem : ∀ out, out ∈ collect disk root overwrite files ↔ _ := fun out => mem_kept_iff
  have hnodup : ((collect disk root overwrite files).map (·.name)).Nodup := kept_nodup [] files
  refine ⟨kept_sublist [] files, hnodup, ?_, ?_, ?_, ?_⟩
  · intro path content
    rw [hmem, and_iff_right List.not_mem_nil, and_comm]
    rfl
  · intro file hfile
    exact (path_mem_kept_iff hfile).trans (and_iff_right List.not_mem_nil)
  · rintro before file after rfl hpath
    exact kept_repeated before after (.inr hpath)
  · exact kept_eq_self hnodup (fun out _ => List.not_mem_nil)
      fun out hout => ((hmem out).mp hout).2.1

def draftDisk : Disk :=
  ⟨[(["out"], .directory), (["out", "old"], .file "".toUTF8)]⟩

def drafts : List RenderedFile :=
  [⟨"old", "1"⟩, ⟨"new", "2"⟩, ⟨"old", "3"⟩, ⟨"new", "4"⟩]

/-- The second file for the path that was passed over is passed over as well. -/
theorem drafts_collected :
    collect draftDisk "out" false drafts = [⟨"new", "2"⟩] ∧
      drafts.find? (·.path == "new") = some ⟨"new", "2"⟩ ∧
      "old" ∉ (collect draftDisk "out" false drafts).map (·.name) ∧
      collect draftDisk "out" false drafts =
        collect draftDisk "out" false [⟨"old", "1"⟩, ⟨"new", "2"⟩, ⟨"new", "4"⟩] ∧
      collect draftDisk "out" false [⟨"new", "2"⟩] = [⟨"new", "2"⟩] := by
  have hout : collect draftDisk "out" false drafts = [⟨"new", "2"⟩] := by decide +kernel
  obtain ⟨-, -, hmem, hpath, hrepeated, hagain⟩ :=
    collect_keeps_firsts draftDisk "out" false drafts
  refine ⟨hout, ((hmem "new" "2").mp (hout ▸ List.mem_cons_self)).1, ?_, ?_, ?_⟩
  · rw [hpath ⟨"old", "1"⟩ List.mem_cons_self]
    decide +kernel
  · exact hrepeated [⟨"old", "1"⟩, ⟨"new", "2"⟩] ⟨"old", "3"⟩ [⟨"new", "4"⟩] rfl
      List.mem_cons_self
  · rw [hout] at hagain
    exact hagain

end Stencil
