import Mathlib
import Stencil.Command
import Stencil.Proofs.Stages

/-!
# Stencil.Proofs.Outcome

What a run of the program leaves behind when a step of it fails.

* `Source.Asks`    — the request that a descriptor set stands for.
* `Source.Fails`   — a step fails, from the reading of the set to any unit of any model.
* `Source.Renders` — no step fails: every unit of every model is rendered.
* `Outcome.Fruitless` — a run that has failed and left the disk alone.
* `Outcome.Writes`  — a run in which nothing but the writing was left to fail.
* `Outcome.Answers` — a run that shows one response and leaves the disk alone.

Writing is the last step of a run, so one that failed before has written nothing
(`no_partial_output`). A request from the input is never written to the disk and always answered.
-/

namespace Stencil

theorem append_ne_empty {a b : String} (h : a ≠ "") : a ++ b ≠ "" :=
  fun hab => h (String.append_eq_empty_iff.mp hab).1

theorem Failure.message_ne_empty (e : Failure) : e.message ≠ "" := by
  have hsetting : toString "configuration error: option `" ≠ "" := by decide
  have hbuild : toString "in message `" ≠ "" := by decide
  have hfile : toString "cannot read template " ≠ "" := by decide
  have hmissing : toString "file `" ≠ "" := by decide
  cases e with
  | setting e => exact append_ne_empty (append_ne_empty (append_ne_empty hsetting))
  | build e => exact append_ne_empty (append_ne_empty (append_ne_empty hbuild))
  | decode text => exact append_ne_empty (by decide)
  | templateFile path fault => exact append_ne_empty (append_ne_empty (append_ne_empty hfile))
  | template fault => exact append_ne_empty (by decide)
  | missingFile name => exact append_ne_empty (append_ne_empty hmissing)

namespace Command

structure Outcome.Fruitless (o : Outcome) (disk : Disk) : Prop where
  status : o.status ≠ Outcome.success
  disk : o.disk = disk
  files : o.files = []

section

variable (kit : Toolkit) (disk : Disk) (source : Source)

def Source.Asks (r : Request) : Prop :=
  ∃ bytes decls, disk.read source.set = .ok bytes ∧ kit.codec.descriptorSet bytes = .ok decls ∧
    r = Request.ofSet decls source.parameter source.listed

/-- The listed file and the unit need not be the first that fail. -/
inductive Source.Fails : Prop where
  | unread {fault : DiskFault} : disk.read source.set = .error fault → Source.Fails
  | undecoded {bytes : ByteArray} {text : String} :
      disk.read source.set = .ok bytes → kit.codec.descriptorSet bytes = .error text →
        Source.Fails
  | early {e : Failure} : EarlyFailure kit disk source.parameter e → Source.Fails
  | unbuilt {r : Request} {s : Settings} {name : String} {e : Failure} :
      source.Asks kit disk r → Settings.ofParameter kit.toml disk source.parameter = .ok s →
        name ∈ r.listed → Attempted r.files s.builder name (.error e) → Source.Fails
  | unrendered {r : Request} {s : Settings} {renderer : Renderer kit.engine} {built : List Model}
      {m : Model} {c : Context} {fault : EngineFault} :
      source.Asks kit disk r → Ready kit disk source.parameter s renderer →
        AllSucceed (Attempted r.files s.builder) r.listed built → m ∈ s.merged built →
          c ∈ contexts m s.unit → Rendered renderer c (.error fault) → Source.Fails

def Source.Renders : Prop :=
  ∃ r s renderer built, source.Asks kit disk r ∧ Ready kit disk source.parameter s renderer ∧
    AllSucceed (Attempted r.files s.builder) r.listed built ∧
      ∀ m ∈ s.merged built, ∀ c ∈ contexts m s.unit, ∃ file, Rendered renderer c (.ok file)

end

variable {kit : Toolkit}

/-! ## The request of a descriptor set -/

theorem Source.Asks.parameter {disk : Disk} {source : Source} {r : Request}
    (h : source.Asks kit disk r) : r.parameter = source.parameter := by
  obtain ⟨bytes, decls, -, -, rfl⟩ := h
  rfl

theorem Source.load_eq_ok {disk : Disk} {source : Source} {r : Request} :
    source.load kit.codec disk = .ok r ↔ source.Asks kit disk r := by
  simp only [Source.load, Source.Asks, Request.ofDescriptorSet]
  cases hread : disk.read source.set with
  | error fault => simp
  | ok bytes =>
    cases hset : kit.codec.descriptorSet bytes with
    | error text => simp [hset]
    | ok decls => simp [hset, eq_comm]

theorem Source.Asks.unique {disk : Disk} {source : Source} {r r' : Request}
    (h : source.Asks kit disk r) (h' : source.Asks kit disk r') : r = r' :=
  Except.ok.inj ((load_eq_ok.mpr h).symm.trans (load_eq_ok.mpr h'))

theorem Source.Renders.not_fails {disk : Disk} {source : Source} (h : source.Renders kit disk) :
    ¬ source.Fails kit disk := by
  obtain ⟨r, s, renderer, built, hasks, hready, hbuilt, hunits⟩ := h
  intro hfails
  cases hfails with
  | unread hread =>
    obtain ⟨bytes, decls, hread', -⟩ := hasks
    cases hread.symm.trans hread'
  | undecoded hread hset =>
    obtain ⟨bytes, decls, hread', hset', -⟩ := hasks
    cases hread.symm.trans hread'
    cases hset.symm.trans hset'
  | early he => exact hready.not_early _ he
  | unbuilt hasks' hs hname hfails =>
    obtain rfl := hasks.unique hasks'
    obtain rfl := Except.ok.inj (hready.settings.symm.trans hs)
    obtain ⟨m, hm⟩ := hbuilt.exists_ok _ hname
    cases hfails.unique hm
  | unrendered hasks' hready' hbuilt' hm hc hfails =>
    obtain rfl := hasks.unique hasks'
    obtain ⟨rfl, rfl⟩ := hready.unique hready'
    obtain rfl := hbuilt.unique (fun _ _ _ => Attempted.unique) hbuilt'
    obtain ⟨file, hfile⟩ := hunits _ hm _ hc
    cases hfails.unique hfile

theorem Source.Asks.renders {disk : Disk} {source : Source} {r : Request} {out : String}
    {response : Response} (h : source.Asks kit disk r)
    (hr : generate kit disk out r = .ok response) : source.Renders kit disk := by
  obtain ⟨made, hmade, -⟩ := generate_eq_ok.mp hr
  obtain ⟨renderer, hsettings, hrenderer, hmodels, hfiles⟩ := Request.rendering_eq_ok.mp hmade
  obtain ⟨built, hbuilt, heq⟩ := buildModels_eq_ok.mp hmodels
  rw [h.parameter] at hsettings
  rw [heq] at hfiles
  exact ⟨r, made.settings, renderer, built, h, ready_iff.mpr ⟨hsettings, hrenderer⟩, hbuilt,
    renderAll_rendered hfiles⟩

theorem Source.Renders.generate {disk : Disk} {source : Source} (h : source.Renders kit disk)
    (out : String) :
    ∃ r response, source.Asks kit disk r ∧ Stencil.generate kit disk out r = .ok response := by
  obtain ⟨r, s, renderer, built, hasks, hready, hbuilt, hunits⟩ := h
  rw [← hasks.parameter] at hready
  obtain ⟨hsettings, hrenderer⟩ := ready_iff.mp hready
  cases hfiles : renderAll renderer.render (s.merged built) s.unit with
  | error fault =>
    obtain ⟨before, m, after, hmodels, -, first, c, last, hcontexts, -, hc⟩ :=
      renderAll_eq_error.mp hfiles
    obtain ⟨file, hfile⟩ := hunits m (by simp [hmodels]) c (by simp [hcontexts])
    cases hc.unique hfile
  | ok files =>
    have hmodels : buildModels r s = .ok (s.merged built) :=
      buildModels_eq_ok.mpr ⟨built, hbuilt, rfl⟩
    have hmade : r.rendering kit disk = .ok ⟨s, s.merged built, files⟩ :=
      Request.rendering_eq_ok.mpr ⟨renderer, hsettings, hrenderer, hmodels, hfiles⟩
    exact ⟨r, _, hasks, generate_eq_ok.mpr ⟨_, hmade, rfl⟩⟩

/-! ## What is left behind -/

theorem Outcome.reported_fruitless (disk : Disk) (events : List Event) (report : Report) :
    (Outcome.reported disk events report).Fruitless disk where
  status := (by decide : Outcome.failure ≠ Outcome.success)
  disk := rfl
  files := rfl

theorem Outcome.failed_fruitless (disk : Disk) (events : List Event) (e : Failure) :
    (Outcome.failed disk events e).Fruitless disk := by
  rw [Outcome.failed]
  split
  · exact ⟨(by decide : Outcome.crash ≠ Outcome.success), rfl, rfl⟩
  · exact reported_fruitless disk events _

theorem render_fruitless {disk : Disk} {source : Source} {out : String} (input : ByteArray)
    (h : ∀ r response, source.Asks kit disk r → generate kit disk out r ≠ .ok response) :
    ((Invocation.render source out).run kit disk input).Fruitless disk := by
  rw [Invocation.run]
  cases hload : source.load kit.codec disk with
  | error report => exact Outcome.reported_fruitless disk [] report
  | ok r =>
    cases hr : generate kit disk out r with
    | error e =>
      simp only [writeFiles, hr]
      exact Outcome.failed_fruitless disk _ e
    | ok response => exact absurd hr (h r response (Source.load_eq_ok.mp hload))

/-- After the rendering comes the writing and nothing else. -/
structure Outcome.Writes (o : Outcome) (written : Written) : Prop where
  status : o.status = Outcome.success ↔ written.fault? = none
  disk : o.disk = written.disk
  files : o.files = written.files

theorem render_writes {disk : Disk} {source : Source} {out : String} {r : Request}
    {response : Response} (input : ByteArray) (hasks : source.Asks kit disk r)
    (hr : generate kit disk out r = .ok response) :
    ((Invocation.render source out).run kit disk input).Writes
      (writeAll disk out response.files) := by
  simp only [Invocation.run, Source.load_eq_ok.mpr hasks, writeFiles, hr]
  cases hfault : (writeAll disk out response.files).fault? with
  | none => exact ⟨by simp [hfault], rfl, rfl⟩
  | some fault =>
    have hstatus : Outcome.failure ≠ Outcome.success := by decide
    exact ⟨by simp [hfault, Outcome.reported, hstatus], rfl, rfl⟩

/-- One response is shown. It tells a failure, with no file beside, just if the run has failed. -/
structure Outcome.Answers (o : Outcome) (disk : Disk) (response : Response) : Prop where
  shown : o.shown = .response response
  failure : o.status ≠ Outcome.success ↔
    (∃ text, response.error? = some text ∧ text ≠ "") ∧ response.files = []
  success : o.status = Outcome.success ↔ response.error? = none
  features : response.supportedFeatures? = some Response.features
  disk : o.disk = disk
  files : o.files = []

theorem answers_made {disk : Disk} {input : ByteArray} {response : Response}
    (h : respond kit disk input = .ok response) :
    (answer kit disk input).Answers disk response := by
  obtain ⟨files, rfl⟩ : ∃ files, response = Response.ofFiles files := by
    rw [respond] at h
    split at h
    · cases h
    · obtain ⟨made, -, hmade⟩ := generate_eq_ok.mp h
      exact ⟨_, hmade⟩
  rw [answer, h]
  refine ⟨rfl, ?_, ?_, rfl, rfl, rfl⟩
  · simp [Response.ofFiles]
  · simp [Response.ofFiles]

theorem answers_failed {disk : Disk} {input : ByteArray} {e : Failure}
    (h : respond kit disk input = .error e) (hcrash : e.isCrash = false) :
    (answer kit disk input).Answers disk e.response := by
  have hstatus : Outcome.failure ≠ Outcome.success := by decide
  rw [answer, h]
  simp only [hcrash, Outcome.failed, Bool.false_eq_true, ↓reduceIte]
  refine ⟨rfl, ?_, ?_, rfl, rfl, rfl⟩
  · simp [Outcome.reported, hstatus, Failure.response, Response.ofError, e.message_ne_empty]
  · simp [Outcome.reported, hstatus, Failure.response, Response.ofError]

theorem answer_answers {disk : Disk} {input : ByteArray}
    (hcrash : ∀ e, respond kit disk input = .error e → e.isCrash = false) :
    ∃ response, (answer kit disk input).Answers disk response ∧
      (response.error? = none ↔ respond kit disk input = .ok response) := by
  cases h : respond kit disk input with
  | ok response =>
    have hanswers := answers_made h
    refine ⟨response, hanswers, ?_⟩
    simp [← hanswers.success, answer, h]
  | error e =>
    refine ⟨e.response, answers_failed h (hcrash e h), ?_⟩
    simp [Failure.response, Response.ofError]

/-- An input is answered with one response, which tells a failure just if the run has failed, and
nothing is written. A rendering in which any step fails, be it only the last unit of the last model,
is a failure and leaves the disk alone. One that does not has rendered every unit of every model,
and nothing but the writing of these is left to do. -/
theorem no_partial_output (kit : Toolkit) (disk : Disk) :
    (∀ input, (∀ e, respond kit disk input = .error e → e.isCrash = false) →
      ∃ response, (Invocation.plugin.run kit disk input).Answers disk response ∧
        (response.error? = none ↔ respond kit disk input = .ok response)) ∧
      ∀ input source out o, (Invocation.render source out).run kit disk input = o →
        (source.Fails kit disk → o.Fruitless disk) ∧
        (¬ o.Fruitless disk → source.Renders kit disk) ∧
        (source.Renders kit disk → ∃ r response, source.Asks kit disk r ∧
          generate kit disk out r = .ok response ∧
            o.Writes (writeAll disk out response.files)) := by
  refine ⟨fun input hcrash => answer_answers hcrash, ?_⟩
  rintro input source out o rfl
  refine ⟨?_, ?_, ?_⟩
  · intro hfails
    apply render_fruitless
    intro r response hasks hr
    exact (hasks.renders hr).not_fails hfails
  · intro htouched
    by_contra hnot
    exact htouched (render_fruitless input fun r response hasks hr => hnot (hasks.renders hr))
  · intro hrenders
    obtain ⟨r, response, hasks, hr⟩ := hrenders.generate out
    exact ⟨r, response, hasks, hr, render_writes input hasks hr⟩

/-- A file of two messages, of which the second has no field. -/
def pairText : String :=
  "\n\x04shop\"\x0f\n\x05Order\x12\x06\n\x02id(\x09\"\x07\n\x05Empty"

def pairFile : FileDecl :=
  { name? := some "shop"
    messages := [{ name? := some "Order", fields := [{ name? := some "id", type? := some 9 }] },
      { name? := some "Empty" }] }

def pairModel : Model :=
  { fileName := "shop"
    messages := [
      { name := "Order", fields := [{ name := "id", typeName := "string", isRequired := true }] },
      { name := "Empty" }] }

def pairDisk : Disk :=
  ⟨[(["set"], .file ("\n " ++ pairText).toUTF8), (["flat"], .file "{{message.name}}".toUTF8),
    (["deep"], .file "{{message.fields[0].name}}".toUTF8)]⟩

def pairParameter (template : String) : String :=
  "template=" ++ template ++ ",lang=go,output_path={{message.name}},generate_type=message"

def pairSource (template : String) : Source := ⟨"set", pairParameter template, []⟩

def pairRequest (template : String) : Request :=
  { listed := ["shop"], parameter? := some (pairParameter template), files := [pairFile] }

theorem pairSource_asks (template : String) :
    (pairSource template).Asks .bundled pairDisk (pairRequest template) := by
  have hread : pairDisk.read "set" = .ok ("\n " ++ pairText).toUTF8 := by decide +kernel
  have hset : Toolkit.bundled.codec.descriptorSet ("\n " ++ pairText).toUTF8 = .ok [pairFile] := by
    cbv
  exact ⟨_, _, hread, hset, rfl⟩

def pairSettings : Settings := ⟨"deep", .go, "{{message.name}}", .message, false, true, true⟩

def pairUnit : Context := { file := pairModel, message? := some { name := "Empty" } }

theorem pairUnit_unrendered :
    ∃ renderer, pairSettings.renderer .bundled pairDisk = .ok renderer ∧
      renderer.render pairUnit = .error unnamedField := by
  have hrender : (pairSettings.renderer .bundled pairDisk).map (fun r => r.render pairUnit) =
      .ok (.error unnamedField) := by decide +kernel
  exact map_eq_ok.mp hrender

/-- The second message, which is the last unit, has no field to be rendered. -/
theorem pairSource_fails : (pairSource "deep").Fails .bundled pairDisk := by
  have hsettings : Settings.ofParameter Toolkit.bundled.toml pairDisk (pairParameter "deep") =
      .ok pairSettings := by decide +kernel
  obtain ⟨renderer, hrenderer, hunit⟩ := pairUnit_unrendered
  have hmodel : Attempted [pairFile] pairSettings.builder "shop" (.ok pairModel) :=
    ((pairRequest "deep").attempt_eq_iff _ _ _).mp (by decide +kernel)
  have hlast : pairUnit ∈ contexts pairModel pairSettings.unit := by decide +kernel
  have hm : pairModel ∈ pairSettings.merged [pairModel] := List.mem_singleton.mpr rfl
  exact .unrendered (pairSource_asks "deep") (ready_iff.mpr ⟨hsettings, hrenderer⟩)
    (.cons hmodel .nil) hm hlast ((Renderer.render_eq_iff _ _ _).mp hunit)

/-- The empty input is a request without a parameter, which names no template. -/
theorem last_unit_leaves_nothing :
    (∃ response, (Invocation.plugin.run .bundled pairDisk ByteArray.empty).Answers pairDisk
          response ∧ response.error? ≠ none) ∧
      ((Invocation.render (pairSource "deep") "out").run .bundled pairDisk
        ByteArray.empty).Fruitless pairDisk ∧
      (pairSource "flat").Renders .bundled pairDisk := by
  have hanswer : respond .bundled pairDisk ByteArray.empty =
      .error (.setting ⟨"template", .required⟩) := by decide +kernel
  have hcrash : ∀ e, respond .bundled pairDisk ByteArray.empty = .error e →
      e.isCrash = false := by
    intro e he
    cases hanswer.symm.trans he
    rfl
  obtain ⟨hplugin, hrender⟩ := no_partial_output .bundled pairDisk
  obtain ⟨response, hanswers, hmade⟩ := hplugin ByteArray.empty hcrash
  refine ⟨⟨response, hanswers, ?_⟩, (hrender _ _ _ _ rfl).1 pairSource_fails, ?_⟩
  · intro hnone
    cases hanswer.symm.trans (hmade.mp hnone)
  · have hload := Source.load_eq_ok.mpr (pairSource_asks "flat")
    have hwritten : (writeFiles .bundled pairDisk (pairRequest "flat") "out").files ≠ [] := by
      decide +kernel
    apply (hrender ByteArray.empty (pairSource "flat") "out" _ rfl).2.1
    intro hfruitless
    have hfiles := hfruitless.files
    rw [Invocation.run, hload] at hfiles
    exact hwritten hfiles

end Command
end Stencil
