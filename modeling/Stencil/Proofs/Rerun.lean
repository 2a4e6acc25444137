import Stencil.Bundled
import Stencil.Generation
import Stencil.Proofs.Collecting
import Stencil.Proofs.Output

/-!
# Stencil.Proofs.Rerun

Running again over one's own output.

* `Disk.Spares.rendering` — on a disk that spares an earlier one the same files are rendered.
* `rerun_writes_nothing`  — where nothing is overwritten, a second run keeps no file.
-/

namespace Stencil

/-! ## What a run reads -/

section

variable {d₀ d : Disk} (h : d₀.Spares d)
include h

section

variable {toml : Toml.Reader}

theorem Disk.Spares.ofFile {path : String} {raw : RawSettings}
    (hraw : RawSettings.ofFile toml d₀ path = .ok raw) :
    RawSettings.ofFile toml d path = .ok raw := by
  simp only [RawSettings.ofFile] at hraw ⊢
  split at hraw
  · cases hraw
  · rename_i source hsource
    rw [h.readText hsource]
    exact hraw

theorem Disk.Spares.layered {parameter : String} {raw : RawSettings}
    (hraw : RawSettings.layered toml d₀ parameter = .ok raw) :
    RawSettings.layered toml d parameter = .ok raw := by
  simp only [RawSettings.layered] at hraw ⊢
  split at hraw
  · cases hraw
  · split at hraw
    · exact hraw
    · split at hraw
      · cases hraw
      · rename_i file hfile
        rw [h.ofFile hfile]
        exact hraw

theorem Disk.Spares.settings {parameter : String} {s : Settings}
    (hs : Settings.ofParameter toml d₀ parameter = .ok s) :
    Settings.ofParameter toml d parameter = .ok s := by
  simp only [Settings.ofParameter] at hs ⊢
  split at hs
  · cases hs
  · rename_i raw hraw
    rw [h.layered hraw]
    exact hs

end

theorem Disk.Spares.renderer {kit : Toolkit} {s : Settings} {renderer : Renderer kit.engine}
    (hr : s.renderer kit d₀ = .ok renderer) : s.renderer kit d = .ok renderer := by
  simp only [Settings.renderer] at hr ⊢
  split at hr
  · cases hr
  · rename_i source hsource
    rw [h.readText hsource]
    exact hr

end

variable {kit : Toolkit}

theorem Request.rendering_eq_ok {d : Disk} {r : Request} {made : Rendering} :
    r.rendering kit d = .ok made ↔
      ∃ renderer : Renderer kit.engine,
        Settings.ofParameter kit.toml d r.parameter = .ok made.settings ∧
        made.settings.renderer kit d = .ok renderer ∧
        buildModels r made.settings = .ok made.models ∧
        renderAll renderer.render made.models made.settings.unit = .ok made.files := by
  simp only [Request.rendering, Settings.read]
  constructor
  · intro h
    split at h
    · cases h
    · rename_i settings hs
      split at hs
      · cases hs
      · rename_i hset
        cases hs
        split at h
        · cases h
        · rename_i renderer hr
          split at h
          · cases h
          · rename_i models hm
            split at h
            · cases h
            · rename_i files hf
              cases h
              exact ⟨renderer, hset, hr, hm, hf⟩
  · rintro ⟨renderer, hset, hr, hm, hf⟩
    simp only [hset, hr, hm, hf]

theorem Disk.Spares.rendering {d₀ d : Disk} (h : d₀.Spares d) {r : Request} {made : Rendering}
    (hmade : r.rendering kit d₀ = .ok made) : r.rendering kit d = .ok made := by
  obtain ⟨renderer, hs, hr, hrest⟩ := Request.rendering_eq_ok.mp hmade
  exact Request.rendering_eq_ok.mpr ⟨renderer, h.settings hs, h.renderer hr, hrest⟩

theorem generate_eq_ok {d : Disk} {root : String} {r : Request} {response : Response} :
    generate kit d root r = .ok response ↔
      ∃ made, r.rendering kit d = .ok made ∧
        response = Response.ofFiles (collect d root made.settings.overwrite made.files) := by
  simp only [generate]
  constructor
  · intro h
    split at h
    · cases h
    · rename_i made hmade
      cases h
      exact ⟨made, hmade, rfl⟩
  · rintro ⟨made, hmade, rfl⟩
    rw [hmade]

/-! ## The second run -/

theorem writeAll_collect_spares {d : Disk} {root : String} {files : List RenderedFile}
    (hroot : Path.NeverUp root) (hpaths : ∀ file ∈ files, Path.NeverUp file.path) :
    d.Spares (writeAll d root (collect d root false files)).disk := by
  refine writeAll_spares (Disk.Spares.refl d) ?_ fun out hout => (mem_kept out hout).1
  intro out hout
  obtain ⟨-, file, hfile, hname⟩ := mem_kept out hout
  exact hroot.join (hname ▸ hpaths file hfile)

/-- Each rendered path leads to something after the files are written: it did so before, or a
file of this path was kept, not necessarily the one it was rendered for. -/
theorem writeAll_collect_exists? {d : Disk} {root : String} {files : List RenderedFile}
    (h : (writeAll d root (collect d root false files)).fault? = none) :
    ∀ file ∈ files,
      (writeAll d root (collect d root false files)).disk.exists? (Path.join root file.path) =
        true := by
  intro file hfile
  obtain hseen | hexist | ⟨out, hout, hname⟩ :=
    exists_or_kept (fun path => d.exists? (Path.join root path)) [] files file hfile
  · cases hseen
  · exact (writeAll_keeps d root _).exists?_mono hexist
  · rw [← hname]
    exact writeAll_exists? h out hout

theorem collect_eq_nil {d : Disk} {root : String} {files : List RenderedFile}
    (h : ∀ file ∈ files, d.exists? (Path.join root file.path) = true) :
    collect d root false files = [] := by
  rw [List.eq_nil_iff_forall_not_mem]
  intro out hout
  obtain ⟨hnew, file, hfile, hname⟩ := mem_kept out hout
  rw [← hname, h file hfile] at hnew
  cases hnew

/-- Where nothing is overwritten, a run on the disk that a run has left renders the same files,
finds every one of their paths taken and leaves the disk as it is. The paths may be absolute or
stay where they are at some step; a step up could lead back to a file that the run has read. -/
theorem rerun_writes_nothing {disk : Disk} {out : String} {r : Request} {settings : Settings}
    {response : Response} (hsettings : Settings.ofParameter kit.toml disk r.parameter = .ok settings)
    (hkeep : settings.overwrite = false) (hrun : generate kit disk out r = .ok response)
    (hwritten : (writeAll disk out response.files).fault? = none) (hout : Path.NeverUp out)
    (hpaths : ∀ made, r.rendering kit disk = .ok made →
      ∀ file ∈ made.files, Path.NeverUp file.path) :
    ∃ again, generate kit (writeAll disk out response.files).disk out r = .ok again ∧
      again.files = [] ∧
      writeAll (writeAll disk out response.files).disk out again.files =
        ⟨(writeAll disk out response.files).disk, [], none⟩ := by
  obtain ⟨made, hmade, rfl⟩ := generate_eq_ok.mp hrun
  obtain ⟨-, hset, -⟩ := Request.rendering_eq_ok.mp hmade
  cases hset.symm.trans hsettings
  rw [hkeep] at hwritten ⊢
  have hspares := writeAll_collect_spares (d := disk) hout (hpaths made hmade)
  have hnone := collect_eq_nil (writeAll_collect_exists? hwritten)
  refine ⟨Response.ofFiles [], generate_eq_ok.mpr ⟨made, hspares.rendering hmade, ?_⟩, rfl, rfl⟩
  rw [hkeep]
  exact congrArg Response.ofFiles hnone.symm

instance decidableEqExcept {ε α : Type} [DecidableEq ε] [DecidableEq α] :
    DecidableEq (Except ε α)
  | .ok a, .ok b => decidable_of_iff (a = b) (by simp)
  | .error e, .error f => decidable_of_iff (e = f) (by simp)
  | .ok _, .error _ | .error _, .ok _ => isFalse nofun

def shopDisk : Disk :=
  ⟨[(["gen"], .directory), (["gen", "t"], .file "{{message.name}}".toUTF8),
    (["gen", "a"], .directory), (["gen", "a", "Order"], .file "".toUTF8)]⟩

/-- Three files are rendered: one that is there already and twice the same. -/
def shopRequest : Request :=
  { listed := ["shop"]
    parameter? := some ("template=gen/t,lang=go,output_path=a/{{message.name}}," ++
      "generate_type=message,overwrite=false")
    files := [{ name? := some "shop"
                messages := [{ name? := some "Order" }, { name? := some "Item" },
                  { name? := some "Item" }] }] }

theorem shop_rerun :
    ∃ response, generate .bundled shopDisk "gen" shopRequest = .ok response ∧
      response.files = [⟨"a/Item", "Item"⟩] ∧
      (writeAll shopDisk "gen" response.files).fault? = none ∧
      ∃ again, generate .bundled (writeAll shopDisk "gen" response.files).disk "gen" shopRequest =
          .ok again ∧ again.files = [] ∧
        writeAll (writeAll shopDisk "gen" response.files).disk "gen" again.files =
          ⟨(writeAll shopDisk "gen" response.files).disk, [], none⟩ := by
  have hsettings : Settings.ofParameter Toolkit.bundled.toml shopDisk shopRequest.parameter =
      .ok ⟨"gen/t", .go, "a/{{message.name}}", .message, false, false, true⟩ := by decide +kernel
  have hrun : generate .bundled shopDisk "gen" shopRequest =
      .ok (Response.ofFiles [⟨"a/Item", "Item"⟩]) := by decide +kernel
  have hwritten : (writeAll shopDisk "gen" [⟨"a/Item", "Item"⟩]).fault? = none := by
    decide +kernel
  have hfiles : (shopRequest.rendering .bundled shopDisk).map Rendering.files =
      .ok [⟨"a/Order", "Order"⟩, ⟨"a/Item", "Item"⟩, ⟨"a/Item", "Item"⟩] := by decide +kernel
  refine ⟨_, hrun, rfl, hwritten,
    rerun_writes_nothing hsettings rfl hrun hwritten (by decide +kernel) ?_⟩
  intro made hmade
  rw [hmade] at hfiles
  rw [Except.ok.inj hfiles]
  decide +kernel

end Stencil
