import Stencil.Proofs.Listed

/-!
# Stencil.Proofs.Stages

Which of several faults a run fails with.

* `EarlyFailure`    — the first fault of the settings and the templates, of which the parameter and
  the disk tell all.
* `Ready`           — settings and templates without a fault.
* `Rendered`        — what comes of a unit.
* `FirstUnrendered` — the first unit that cannot be rendered, by the order of the models and of the
  units in each.
* `RunFailure`      — the fault of a run: an early one, or that of the first listed file without a
  model, or that of the first such unit.
-/

namespace Stencil

section

variable (kit : Toolkit) (disk : Disk)

inductive EarlyFailure (parameter : String) : Failure → Prop where
  | setting {e : SettingError} :
      Settings.ofParameter kit.toml disk parameter = .error e →
        EarlyFailure parameter (.setting e)
  | templateFile {s : Settings} {fault : DiskFault} :
      Settings.ofParameter kit.toml disk parameter = .ok s →
        disk.readText s.template = .error fault →
          EarlyFailure parameter (.templateFile s.template fault)
  | content {s : Settings} {source : String} {fault : EngineFault} :
      Settings.ofParameter kit.toml disk parameter = .ok s →
        disk.readText s.template = .ok source →
          kit.engine.addTemplate kit.environment contentTemplate source = .error fault →
            EarlyFailure parameter (.template fault)
  | outputPath {s : Settings} {source : String} {env : kit.engine.Environment}
      {fault : EngineFault} :
      Settings.ofParameter kit.toml disk parameter = .ok s →
        disk.readText s.template = .ok source →
          kit.engine.addTemplate kit.environment contentTemplate source = .ok env →
            kit.engine.addTemplate env pathTemplate s.outputPath = .error fault →
              EarlyFailure parameter (.template fault)

structure Ready (parameter : String) (s : Settings) (renderer : Renderer kit.engine) : Prop where
  settings : Settings.ofParameter kit.toml disk parameter = .ok s
  templates : ∃ source env, disk.readText s.template = .ok source ∧
    kit.engine.addTemplate kit.environment contentTemplate source = .ok env ∧
      kit.engine.addTemplate env pathTemplate s.outputPath = .ok renderer.environment

end

/-- The content is rendered first, and the path only if there is a content. -/
inductive Rendered {engine : Engine} (r : Renderer engine) (c : Context) :
    Except EngineFault RenderedFile → Prop where
  | noContent {fault : EngineFault} :
      engine.render r.environment contentTemplate c.bindings = .error fault →
        Rendered r c (.error fault)
  | noPath {content : String} {fault : EngineFault} :
      engine.render r.environment contentTemplate c.bindings = .ok content →
        engine.render r.environment pathTemplate c.bindings = .error fault →
          Rendered r c (.error fault)
  | file {content path : String} :
      engine.render r.environment contentTemplate c.bindings = .ok content →
        engine.render r.environment pathTemplate c.bindings = .ok path →
          Rendered r c (.ok ⟨Text.trim path, content⟩)

def FirstUnrendered {engine : Engine} (r : Renderer engine) (models : List Model)
    (unit : UnitKind) (fault : EngineFault) : Prop :=
  ∃ before m after, models = before ++ m :: after ∧
    (∀ other ∈ before, ∀ c ∈ contexts other unit, ∃ file, Rendered r c (.ok file)) ∧
      FirstFailure (Rendered r) (contexts m unit) fault

inductive RunFailure (kit : Toolkit) (disk : Disk) (r : Request) : Failure → Prop where
  | early {e : Failure} : EarlyFailure kit disk r.parameter e → RunFailure kit disk r e
  | unbuilt {s : Settings} {renderer : Renderer kit.engine} {e : Failure} :
      Ready kit disk r.parameter s renderer →
        FirstFailure (Attempted r.files s.builder) r.listed e → RunFailure kit disk r e
  | unrendered {s : Settings} {renderer : Renderer kit.engine} {built : List Model}
      {fault : EngineFault} :
      Ready kit disk r.parameter s renderer →
        AllSucceed (Attempted r.files s.builder) r.listed built →
          FirstUnrendered renderer (s.merged built) s.unit fault →
            RunFailure kit disk r (.template fault)

variable {kit : Toolkit}

/-! ## Settings and templates -/

theorem Renderer.compile_eq_ok {content outputPath : String} {renderer : Renderer kit.engine} :
    Renderer.compile kit content outputPath = .ok renderer ↔
      ∃ env, kit.engine.addTemplate kit.environment contentTemplate content = .ok env ∧
        kit.engine.addTemplate env pathTemplate outputPath = .ok renderer.environment := by
  obtain ⟨last⟩ := renderer
  rw [Renderer.compile]
  cases hcontent : kit.engine.addTemplate kit.environment contentTemplate content with
  | error fault => simp
  | ok env => cases hpath : kit.engine.addTemplate env pathTemplate outputPath <;> simp [hpath]

theorem Settings.renderer_eq_ok {disk : Disk} {s : Settings} {renderer : Renderer kit.engine} :
    s.renderer kit disk = .ok renderer ↔ ∃ source, disk.readText s.template = .ok source ∧
      Renderer.compile kit source s.outputPath = .ok renderer := by
  rw [Settings.renderer]
  cases hsource : disk.readText s.template with
  | error fault => simp
  | ok source => cases hcompile : Renderer.compile kit source s.outputPath <;> simp [hcompile]

theorem ready_iff {disk : Disk} {parameter : String} {s : Settings}
    {renderer : Renderer kit.engine} :
    Ready kit disk parameter s renderer ↔
      Settings.ofParameter kit.toml disk parameter = .ok s ∧ s.renderer kit disk = .ok renderer := by
  simp only [Settings.renderer_eq_ok, Renderer.compile_eq_ok]
  constructor
  · rintro ⟨hs, source, env, hsource, henv, hlast⟩
    exact ⟨hs, source, hsource, env, henv, hlast⟩
  · rintro ⟨hs, source, hsource, env, henv, hlast⟩
    exact ⟨hs, source, env, hsource, henv, hlast⟩

theorem Ready.unique {disk : Disk} {parameter : String} {s s' : Settings}
    {renderer renderer' : Renderer kit.engine} (h : Ready kit disk parameter s renderer)
    (h' : Ready kit disk parameter s' renderer') : s = s' ∧ renderer = renderer' := by
  obtain ⟨hs, hr⟩ := ready_iff.mp h
  obtain ⟨hs', hr'⟩ := ready_iff.mp h'
  obtain rfl := Except.ok.inj (hs.symm.trans hs')
  exact ⟨rfl, Except.ok.inj (hr.symm.trans hr')⟩

theorem earlyFailure_or_ready (kit : Toolkit) (disk : Disk) (parameter : String) :
    (∃ e, EarlyFailure kit disk parameter e) ∨
      ∃ s renderer, Ready kit disk parameter s renderer := by
  cases hs : Settings.ofParameter kit.toml disk parameter with
  | error e => exact .inl ⟨_, .setting hs⟩
  | ok s =>
    cases hsource : disk.readText s.template with
    | error fault => exact .inl ⟨_, .templateFile hs hsource⟩
    | ok source =>
      cases hcontent : kit.engine.addTemplate kit.environment contentTemplate source with
      | error fault => exact .inl ⟨_, .content hs hsource hcontent⟩
      | ok env =>
        cases hpath : kit.engine.addTemplate env pathTemplate s.outputPath with
        | error fault => exact .inl ⟨_, .outputPath hs hsource hcontent hpath⟩
        | ok last => exact .inr ⟨s, ⟨last⟩, hs, source, env, hsource, hcontent, hpath⟩

theorem Ready.not_early {disk : Disk} {parameter : String} {s : Settings}
    {renderer : Renderer kit.engine} (h : Ready kit disk parameter s renderer) (e : Failure) :
    ¬ EarlyFailure kit disk parameter e := by
  obtain ⟨source, env, hsource, hcontent, hpath⟩ := h.templates
  intro he
  cases he with
  | setting hs => cases hs.symm.trans h.settings
  | templateFile hs hfault =>
    cases hs.symm.trans h.settings
    cases hfault.symm.trans hsource
  | content hs hfound hfault =>
    cases hs.symm.trans h.settings
    cases hfound.symm.trans hsource
    cases hfault.symm.trans hcontent
  | outputPath hs hfound hfirst hfault =>
    cases hs.symm.trans h.settings
    cases hfound.symm.trans hsource
    cases hfirst.symm.trans hcontent
    cases hfault.symm.trans hpath

theorem ready_iff_not_early {disk : Disk} {parameter : String} :
    (∃ s renderer, Ready kit disk parameter s renderer) ↔
      ¬ ∃ e, EarlyFailure kit disk parameter e := by
  constructor
  · rintro ⟨s, renderer, hready⟩ ⟨e, he⟩
    exact hready.not_early e he
  · intro hnone
    exact (earlyFailure_or_ready kit disk parameter).resolve_left hnone

theorem EarlyFailure.rendering {disk : Disk} {r : Request} {e : Failure}
    (h : EarlyFailure kit disk r.parameter e) : r.rendering kit disk = .error e := by
  cases h with
  | setting hs => simp only [Request.rendering, Settings.read, hs]
  | templateFile hs hsource =>
    simp only [Request.rendering, Settings.read, hs, Settings.renderer, hsource]
  | content hs hsource hcontent =>
    simp only [Request.rendering, Settings.read, hs, Settings.renderer, hsource, Renderer.compile,
      hcontent]
  | outputPath hs hsource hcontent hpath =>
    simp only [Request.rendering, Settings.read, hs, Settings.renderer, hsource, Renderer.compile,
      hcontent, hpath]

/-! ## Units -/

theorem Renderer.render_eq_iff {engine : Engine} (r : Renderer engine) (c : Context)
    (result : Except EngineFault RenderedFile) : r.render c = result ↔ Rendered r c result := by
  rw [Renderer.render, Renderer.content, Renderer.path]
  constructor
  · rintro rfl
    cases hcontent : engine.render r.environment contentTemplate c.bindings with
    | error fault => exact .noContent hcontent
    | ok content =>
      cases hpath : engine.render r.environment pathTemplate c.bindings with
      | error fault => exact .noPath hcontent hpath
      | ok path => exact .file hcontent hpath
  · intro h
    cases h with
    | noContent hcontent => simp only [hcontent]
    | noPath hcontent hpath => simp only [hcontent, hpath]
    | file hcontent hpath => simp only [hcontent, hpath]

theorem Rendered.unique {engine : Engine} {r : Renderer engine} {c : Context}
    {result result' : Except EngineFault RenderedFile} (h : Rendered r c result)
    (h' : Rendered r c result') : result = result' :=
  ((r.render_eq_iff c result).mpr h).symm.trans ((r.render_eq_iff c result').mpr h')

theorem renderAll_eq_error {engine : Engine} {r : Renderer engine} {models : List Model}
    {unit : UnitKind} {fault : EngineFault} :
    renderAll r.render models unit = .error fault ↔ FirstUnrendered r models unit fault := by
  rw [renderAll, renderEach_eq_mapM, mapM_eq_error r.render_eq_iff, firstFailure_flatMap]
  rfl

theorem renderAll_eq_ok {engine : Engine} {r : Renderer engine} {models : List Model}
    {unit : UnitKind} {files : List RenderedFile} :
    renderAll r.render models unit = .ok files ↔
      AllSucceed (Rendered r) (models.flatMap (contexts · unit)) files := by
  rw [renderAll, renderEach_eq_mapM, mapM_eq_ok r.render_eq_iff]

theorem renderAll_rendered {engine : Engine} {r : Renderer engine} {models : List Model}
    {unit : UnitKind} {files : List RenderedFile} (h : renderAll r.render models unit = .ok files) :
    ∀ m ∈ models, ∀ c ∈ contexts m unit, ∃ file, Rendered r c (.ok file) := by
  intro m hm c hc
  exact (renderAll_eq_ok.mp h).exists_ok c (List.mem_flatMap.mpr ⟨m, hm, hc⟩)

/-! ## Runs -/

theorem Request.filesBy_eq_error {render : Context → Except EngineFault RenderedFile}
    {r : Request} {s : Settings} {e : Failure} :
    r.filesBy render s = .error e ↔
      buildModels r s = .error e ∨ ∃ models fault, buildModels r s = .ok models ∧
        renderAll render models s.unit = .error fault ∧ e = .template fault := by
  rw [Request.filesBy]
  cases buildModels r s with
  | error e' => simp
  | ok models =>
    cases hfiles : renderAll render models s.unit with
    | error fault => simp [hfiles, eq_comm]
    | ok files => simp [hfiles]

theorem Ready.rendering_eq_error {disk : Disk} {r : Request} {s : Settings}
    {renderer : Renderer kit.engine} (h : Ready kit disk r.parameter s renderer) {e : Failure} :
    r.rendering kit disk = .error e ↔ r.filesBy renderer.render s = .error e := by
  obtain ⟨hs, hr⟩ := ready_iff.mp h
  rw [← Request.rendering_files hs hr]
  cases r.rendering kit disk <;> simp [Except.map]

theorem Request.rendering_eq_error {disk : Disk} {r : Request} {e : Failure} :
    r.rendering kit disk = .error e ↔ RunFailure kit disk r e := by
  constructor
  · intro h
    rcases earlyFailure_or_ready kit disk r.parameter with ⟨early, hearly⟩ | ⟨s, renderer, hready⟩
    · cases hearly.rendering.symm.trans h
      exact .early hearly
    · rw [hready.rendering_eq_error, Request.filesBy_eq_error] at h
      rcases h with hbuild | ⟨models, fault, hmodels, hfault, rfl⟩
      · exact .unbuilt hready (buildModels_eq_error.mp hbuild)
      · obtain ⟨built, hbuilt, rfl⟩ := buildModels_eq_ok.mp hmodels
        exact .unrendered hready hbuilt (renderAll_eq_error.mp hfault)
  · intro h
    cases h with
    | early hearly => exact hearly.rendering
    | unbuilt hready hfirst =>
      rw [hready.rendering_eq_error, Request.filesBy_eq_error]
      exact .inl (buildModels_eq_error.mpr hfirst)
    | unrendered hready hbuilt hfirst =>
      rw [hready.rendering_eq_error, Request.filesBy_eq_error]
      exact .inr ⟨_, _, buildModels_eq_ok.mpr ⟨_, hbuilt, rfl⟩, renderAll_eq_error.mpr hfirst, rfl⟩

theorem generate_eq_error {disk : Disk} {root : String} {r : Request} {e : Failure} :
    generate kit disk root r = .error e ↔ RunFailure kit disk r e := by
  rw [← Request.rendering_eq_error, generate]
  cases r.rendering kit disk <;> simp

/-- A fault of the settings or the templates ends every run with that parameter, whatever is
declared and listed: of several such faults the first by the order settings, template file, content,
output path. If there is none, a run fails with the first listed file that is missing or cannot be
built, and if there is none of these either, with the first unit that cannot be rendered. It fails
for no other reason. -/
theorem failures_in_order (kit : Toolkit) (disk : Disk) (root parameter : String) :
    (∀ e, EarlyFailure kit disk parameter e →
      ∀ r : Request, r.parameter = parameter → generate kit disk root r = .error e) ∧
      ((∃ s renderer, Ready kit disk parameter s renderer) ↔
        ¬ ∃ e, EarlyFailure kit disk parameter e) ∧
      ∀ (r : Request) (e : Failure),
        generate kit disk root r = .error e ↔ RunFailure kit disk r e := by
  refine ⟨?_, ready_iff_not_early, fun r e => generate_eq_error⟩
  rintro e he r rfl
  exact generate_eq_error.mpr (.early he)

def faultyDisk : Disk := ⟨[(["good"], .file "{{message.fields[0].name}}".toUTF8)]⟩

/-- Its one message has no field to be named after. -/
def faultyRequest (template outputPath : String) (listed : List String) : Request :=
  { listed
    parameter? := some ("template=" ++ template ++ ",lang=go,output_path=" ++ outputPath ++
      ",generate_type=message")
    files := [{ name? := some "shop", messages := [{ name? := some "Order" }] }] }

def unnamedField : EngineFault :=
  .error "undefined value (in content:1)" ["undefined value (in content:1)"]

/-- There is no template, the one for the path is ill-formed and a file is missing; then a message
cannot be rendered, and a file is missing behind the one that declares it. -/
theorem faults_together :
    generate .bundled faultyDisk "." (faultyRequest "none" "\x7b%" ["gone"]) =
        .error (.templateFile "none" .notFound) ∧
      RunFailure .bundled faultyDisk (faultyRequest "good" "x" ["shop"])
        (.template unnamedField) ∧
      RunFailure .bundled faultyDisk (faultyRequest "good" "x" ["shop", "gone"])
        (.missingFile "gone") := by
  have hsettings : Settings.ofParameter Toolkit.bundled.toml faultyDisk
      (faultyRequest "none" "\x7b%" ["gone"]).parameter =
        .ok ⟨"none", .go, "\x7b%", .message, false, true, true⟩ := by decide +kernel
  have hsource : faultyDisk.readText "none" = .error .notFound := by decide +kernel
  obtain ⟨hearly, -, hruns⟩ := failures_in_order .bundled faultyDisk "." _
  refine ⟨hearly _ (.templateFile hsettings hsource) _ rfl, ?_, ?_⟩
  · exact (hruns _ _).mp (by decide +kernel)
  · exact (hruns _ _).mp (by decide +kernel)

end Stencil
