import Stencil.Proofs.Collecting
import Stencil.Proofs.Pieces
import Stencil.Proofs.Stages

/-!
# Stencil.Proofs.FileName

The names of generated files.

* `BlankPath`            — there is a unit whose path comes to blanks alone.
* `blankPath_iff`        — then, and only then, is a file rendered to the empty path.
* `name_mem_collect_iff` — which names are among the collected files.

The path template has to be there, and blanks around a rendered path are taken away, but nothing
looks at what is left. So a file has no name if its path comes to blanks (`blank_path_unnamed`), and
every other name is tidy (`named_unless_blank_path`).
-/

namespace Stencil

inductive BlankPath (kit : Toolkit) (disk : Disk) (r : Request) : Prop where
  | unit {s : Settings} {renderer : Renderer kit.engine} {models : List Model} {m : Model}
      {c : Context} {path : String} :
      Ready kit disk r.parameter s renderer → buildModels r s = .ok models → m ∈ models →
        c ∈ contexts m s.unit →
          kit.engine.render renderer.environment pathTemplate c.bindings = .ok path →
            path.toList.all Text.isBlank = true → BlankPath kit disk r

section

variable {engine : Engine} {r : Renderer engine} {c : Context} {file : RenderedFile}

theorem Rendered.path_eq (h : Rendered r c (.ok file)) :
    ∃ path, engine.render r.environment pathTemplate c.bindings = .ok path ∧
      file.path = Text.trim path := by
  cases h with
  | file _ hpath => exact ⟨_, hpath, rfl⟩

theorem Rendered.tidy (h : Rendered r c (.ok file)) : file.path = "" ∨ Text.Tidy file.path := by
  obtain ⟨path, -, hfile⟩ := h.path_eq
  rw [hfile, or_iff_not_imp_left]
  exact Text.trim_tidy

end

theorem blankPath_iff {kit : Toolkit} {disk : Disk} {r : Request} {made : Rendering}
    (h : r.rendering kit disk = .ok made) :
    BlankPath kit disk r ↔ "" ∈ made.files.map (·.path) := by
  obtain ⟨renderer, hs, hr, hmodels, hfiles⟩ := Request.rendering_eq_ok.mp h
  have hready : Ready kit disk r.parameter made.settings renderer := ready_iff.mpr ⟨hs, hr⟩
  rw [renderAll_eq_ok] at hfiles
  rw [List.mem_map]
  constructor
  · rintro @⟨s, renderer', models, m, c, path, hready', hmodels', hm, hc, hpath, hblank⟩
    obtain ⟨rfl, rfl⟩ := hready.unique hready'
    cases hmodels.symm.trans hmodels'
    obtain ⟨file, hfile, hrendered⟩ :=
      hfiles.exists_result c (List.mem_flatMap.mpr ⟨m, hm, hc⟩)
    obtain ⟨path', hpath', hname⟩ := hrendered.path_eq
    cases hpath.symm.trans hpath'
    exact ⟨file, hfile, hname.trans ((Text.trim_eq_empty_iff path).mpr hblank)⟩
  · rintro ⟨file, hfile, hname⟩
    obtain ⟨c, hmem, hrendered⟩ := hfiles.exists_source file hfile
    obtain ⟨m, hm, hc⟩ := List.mem_flatMap.mp hmem
    obtain ⟨path, hpath, heq⟩ := hrendered.path_eq
    rw [hname] at heq
    exact .unit hready hmodels hm hc hpath ((Text.trim_eq_empty_iff path).mp heq.symm)

theorem name_mem_collect_iff {disk : Disk} {root : String} {overwrite : Bool}
    {files : List RenderedFile} {name : String} :
    name ∈ (collect disk root overwrite files).map (·.name) ↔
      name ∈ files.map (·.path) ∧
        (overwrite = true ∨ disk.exists? (Path.join root name) = false) := by
  constructor
  · intro hname
    obtain ⟨out, hout, rfl⟩ := List.mem_map.mp hname
    obtain ⟨-, hwrite, hfind⟩ := mem_kept_iff.mp hout
    exact ⟨List.mem_map.mpr ⟨_, List.mem_of_find?_eq_some hfind, rfl⟩, hwrite⟩
  · rintro ⟨hname, hwrite⟩
    obtain ⟨file, hfile, rfl⟩ := List.mem_map.mp hname
    exact (path_mem_kept_iff hfile).mpr ⟨List.not_mem_nil, hwrite⟩

/-- With any toolkit no name begins or ends with a blank. All files are named, unless a unit has a
path of blanks alone and its file is not left out as one that exists already: the empty name leads
to the directory that files are looked up in. -/
theorem named_unless_blank_path {kit : Toolkit} {disk : Disk} {root : String} {r : Request}
    {s : Settings} {response : Response}
    (hs : Settings.ofParameter kit.toml disk r.parameter = .ok s)
    (h : generate kit disk root r = .ok response) :
    (∀ file ∈ response.files, file.name = "" ∨ Text.Tidy file.name) ∧
      ((∀ file ∈ response.files, Text.Tidy file.name) ↔
        ¬ (BlankPath kit disk r ∧
          (s.overwrite = true ∨ disk.exists? (Path.join root "") = false))) := by
  obtain ⟨made, hmade, rfl⟩ := generate_eq_ok.mp h
  obtain ⟨renderer, hs', hr, -, hfiles⟩ := Request.rendering_eq_ok.mp hmade
  cases hs'.symm.trans hs
  have htidy : ∀ file ∈ collect disk root made.settings.overwrite made.files,
      file.name = "" ∨ Text.Tidy file.name := by
    intro out hout
    obtain ⟨hname, -⟩ := name_mem_collect_iff.mp (List.mem_map_of_mem hout)
    obtain ⟨file, hfile, hpath⟩ := List.mem_map.mp hname
    obtain ⟨c, -, hrendered⟩ := (renderAll_eq_ok.mp hfiles).exists_source file hfile
    exact hpath ▸ hrendered.tidy
  refine ⟨htidy, ?_⟩
  rw [blankPath_iff hmade, ← name_mem_collect_iff, List.mem_map]
  constructor
  · rintro hall ⟨file, hfile, hname⟩
    exact (hall file hfile).nonempty hname
  · intro hnone file hfile
    exact (htidy file hfile).resolve_left fun hname => hnone ⟨file, hfile, hname⟩

def barrelDisk : Disk := ⟨[(["t"], .file "export".toUTF8)]⟩

/-- A file for every package, though one of the two declared files is in none. -/
def barrelRequest (overwrite : String) : Request :=
  { listed := ["shop", "misc"]
    parameter? := some ("template=t,lang=go,output_path={{package}},generate_type=file,overwrite=" ++
      overwrite)
    files := [{ name? := some "shop", package? := some "shop" }, { name? := some "misc" }] }

/-- The file without a name is left out, as the working directory is there already. -/
theorem barrels_named :
    Settings.ofParameter Toolkit.bundled.toml barrelDisk (barrelRequest "false").parameter =
        .ok ⟨"t", .go, "{{package}}", .file, false, false, true⟩ ∧
      generate .bundled barrelDisk "." (barrelRequest "false") =
        .ok (Response.ofFiles [⟨"shop", "export"⟩]) ∧
      ∀ file ∈ [(⟨"shop", "export"⟩ : OutputFile)], Text.Tidy file.name := by
  have hsettings :
      Settings.ofParameter Toolkit.bundled.toml barrelDisk (barrelRequest "false").parameter =
        .ok ⟨"t", .go, "{{package}}", .file, false, false, true⟩ := by decide +kernel
  have hrun : generate .bundled barrelDisk "." (barrelRequest "false") =
      .ok (Response.ofFiles [⟨"shop", "export"⟩]) := by decide +kernel
  refine ⟨hsettings, hrun, (named_unless_blank_path hsettings hrun).2.mpr ?_⟩
  rintro ⟨-, hwrite | hnew⟩
  · cases hwrite
  · exact absurd hnew (by decide +kernel)

/-- Where files are overwritten it is among the generated ones. -/
theorem blank_path_unnamed :
    generate .bundled barrelDisk "." (barrelRequest "true") =
        .ok (Response.ofFiles [⟨"shop", "export"⟩, ⟨"", "export"⟩]) ∧
      ¬ ∀ file ∈ [(⟨"shop", "export"⟩ : OutputFile), ⟨"", "export"⟩], Text.Tidy file.name := by
  decide +kernel

end Stencil
