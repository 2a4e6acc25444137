import Stencil.Proofs.Rerun

/-!
# Stencil.Proofs.Merging

Several models as one, and what is rendered from it.

* `Model.joined`     — the merged model, said of the whole list of models at once.
* `Context.inFile`   — the same unit as part of another model.
* `IgnoresFile`      — a way of rendering that looks at the unit alone.
* `Request.filesBy`  — the files of a request, rendered in any way; with the renderer of its
  settings they are those of a run (`Request.rendering_files`).

Merging puts the messages and the services of the models one after the other and touches none of
them, so the units of the merged model are those of the models (`contexts_joined`). As it is
associative, it does not matter which neighbours are merged first (`Model.merge_regroups`).
-/

namespace Stencil

/-- The empty text if there is no other. -/
def firstNonEmptyOf (texts : List String) : String :=
  (texts.find? (!·.isEmpty)).getD ""

def Model.joined (models : List Model) : Model :=
  { package := firstNonEmptyOf (models.map (·.package))
    fileName := firstNonEmptyOf (models.map (·.fileName))
    messages := models.flatMap (·.messages)
    services := models.flatMap (·.services) }

@[simp] theorem Model.joined_messages (models : List Model) :
    (Model.joined models).messages = models.flatMap (·.messages) := rfl

@[simp] theorem Model.joined_services (models : List Model) :
    (Model.joined models).services = models.flatMap (·.services) := rfl

theorem firstNonEmptyOf_cons (text : String) (rest : List String) :
    firstNonEmptyOf (text :: rest) = firstNonEmpty text (firstNonEmptyOf rest) := by
  unfold firstNonEmptyOf firstNonEmpty
  rw [List.find?_cons]
  cases text.isEmpty <;> rfl

theorem firstNonEmpty_empty (text : String) : firstNonEmpty text "" = text := by
  unfold firstNonEmpty
  split
  · rename_i h
    exact (String.isEmpty_iff.mp h).symm
  · rfl

theorem firstNonEmpty_assoc (a b c : String) :
    firstNonEmpty (firstNonEmpty a b) c = firstNonEmpty a (firstNonEmpty b c) := by
  unfold firstNonEmpty
  cases ha : a.isEmpty <;> simp [ha]

namespace Model

theorem merge_assoc (a b c : Model) : (a.merge b).merge c = a.merge (b.merge c) := by
  simp [merge, firstNonEmpty_assoc]

theorem merge_joined_nil (m : Model) : m.merge (joined []) = m := by
  simp [merge, joined, firstNonEmptyOf, firstNonEmpty_empty]

theorem joined_cons (m : Model) (rest : List Model) :
    joined (m :: rest) = m.merge (joined rest) := by
  simp [merge, joined, firstNonEmptyOf_cons]

/-- A merge is independent of the order in which neighbours are put together. -/
theorem foldl_mergeInto (m : Model) (rest : List Model) :
    rest.foldl (fun acc next => some (mergeInto acc next)) (some m) =
      some (m.merge (joined rest)) := by
  induction rest generalizing m with
  | nil => rw [List.foldl_nil, merge_joined_nil]
  | cons next rest ih =>
    rw [List.foldl_cons, joined_cons, ← merge_assoc]
    exact ih (m.merge next)

theorem mergeAll_cons (m : Model) (rest : List Model) :
    mergeAll (m :: rest) = some (joined (m :: rest)) := by
  rw [joined_cons]
  exact foldl_mergeInto m rest

theorem mergeAll_eq_some {models : List Model} {merged : Model}
    (h : mergeAll models = some merged) : merged = joined models := by
  cases models with
  | nil => cases h
  | cons m rest =>
    rw [mergeAll_cons] at h
    exact (Option.some.inj h).symm

theorem mergeAll_eq_none {models : List Model} : mergeAll models = none ↔ models = [] := by
  cases models with
  | nil => exact ⟨fun _ => rfl, fun _ => rfl⟩
  | cons m rest => simp [mergeAll_cons]

end Model

/-! ## Units -/

def Context.inFile (c : Context) (file : Model) : Context :=
  { c with file }

/-- A merged model has one unit of its own where it is rendered as a file. -/
theorem contexts_joined {unit : UnitKind} (h : unit ≠ .file) (models : List Model) :
    contexts (Model.joined models) unit =
      (models.flatMap (contexts · unit)).map (·.inFile (Model.joined models)) := by
  cases unit with
  | file => exact absurd rfl h
  | message =>
    simp only [contexts, Model.joined_messages, List.map_flatMap, List.map_map]
    rfl
  | service =>
    simp only [contexts, Model.joined_services, List.map_flatMap, List.map_map]
    rfl
  | method =>
    simp only [contexts, Model.joined_services, List.map_flatMap, List.map_map, List.flatMap_assoc]
    rfl

/-! ## Rendering -/

def IgnoresFile (render : Context → Except EngineFault RenderedFile) : Prop :=
  ∀ c file, render (c.inFile file) = render c

theorem renderEach_map {render : Context → Except EngineFault RenderedFile} {f : Context → Context}
    (h : ∀ c, render (f c) = render c) (cs : List Context) :
    renderEach render (cs.map f) = renderEach render cs := by
  induction cs with
  | nil => rfl
  | cons c rest ih => simp only [List.map_cons, renderEach, h, ih]

theorem renderAll_mergeAll {render : Context → Except EngineFault RenderedFile}
    (hrender : IgnoresFile render) {unit : UnitKind} (hunit : unit ≠ .file) (models : List Model) :
    renderAll render (Model.mergeAll models).toList unit = renderAll render models unit := by
  cases models with
  | nil => rfl
  | cons m rest =>
    rw [Model.mergeAll_cons, Option.toList_some, renderAll, renderAll, List.flatMap_singleton,
      contexts_joined hunit]
    exact renderEach_map (fun c => hrender c _) _

def Settings.merging (s : Settings) (allow : Bool) : Settings :=
  { s with allowMerge := allow }

@[simp] theorem Settings.merging_allowMerge (s : Settings) (allow : Bool) :
    (s.merging allow).allowMerge = allow := rfl

@[simp] theorem Settings.merging_unit (s : Settings) (allow : Bool) :
    (s.merging allow).unit = s.unit := rfl

@[simp] theorem Settings.merging_builder (s : Settings) (allow : Bool) :
    (s.merging allow).builder = s.builder := rfl

theorem Settings.merging_renderer (s : Settings) (allow : Bool) (kit : Toolkit) (disk : Disk) :
    (s.merging allow).renderer kit disk = s.renderer kit disk := rfl

/-- The same request for other settings. -/
def Request.withParameter (r : Request) (parameter : String) : Request :=
  { r with parameter? := some parameter }

@[simp] theorem Request.withParameter_parameter (r : Request) (parameter : String) :
    (r.withParameter parameter).parameter = parameter := rfl

theorem map_eq_ok {ε α β : Type} {x : Except ε α} {f : α → β} {b : β} :
    x.map f = .ok b ↔ ∃ a, x = .ok a ∧ f a = b := by
  cases x <;> simp [Except.map]

theorem buildModels_eq (r : Request) (s : Settings) :
    buildModels r s = (attemptAll (r.attempt s.builder) r.listed).map fun models =>
      if s.allowMerge then (Model.mergeAll models).toList else models := by
  unfold buildModels
  cases attemptAll (r.attempt s.builder) r.listed <;> rfl

theorem buildModels_withParameter (r : Request) (parameter : String) (s : Settings) :
    buildModels (r.withParameter parameter) s = buildModels r s := rfl

/-- What the last two stages of a run make when any function stands in for the templates. -/
def Request.filesBy (render : Context → Except EngineFault RenderedFile) (r : Request)
    (s : Settings) : Except Failure (List RenderedFile) :=
  match buildModels r s with
  | .error e => .error e
  | .ok models =>
    match renderAll render models s.unit with
    | .error e => .error (.template e)
    | .ok files => .ok files

theorem Request.rendering_files {kit : Toolkit} {disk : Disk} {r : Request} {s : Settings}
    {renderer : Renderer kit.engine} (hs : Settings.ofParameter kit.toml disk r.parameter = .ok s)
    (hr : s.renderer kit disk = .ok renderer) :
    (r.rendering kit disk).map (·.files) = r.filesBy renderer.render s := by
  unfold Request.rendering Request.filesBy
  simp only [Settings.read, hs, hr]
  cases buildModels r s with
  | error e => rfl
  | ok models =>
    simp only
    cases renderAll renderer.render models s.unit <;> rfl

theorem Request.filesBy_withParameter (render : Context → Except EngineFault RenderedFile)
    (r : Request) (parameter : String) (s : Settings) :
    (r.withParameter parameter).filesBy render s = r.filesBy render s := by
  unfold Request.filesBy
  rw [buildModels_withParameter]

theorem Request.filesBy_merging {render : Context → Except EngineFault RenderedFile}
    (hrender : IgnoresFile render) (r : Request) {s : Settings} (hunit : s.unit ≠ .file) :
    r.filesBy render (s.merging true) = r.filesBy render (s.merging false) := by
  unfold Request.filesBy
  rw [buildModels_eq, buildModels_eq, Settings.merging_builder, Settings.merging_builder]
  cases attemptAll (r.attempt s.builder) r.listed with
  | error e => rfl
  | ok models =>
    simp only [Except.map, Settings.merging_allowMerge, Settings.merging_unit, if_true,
      Bool.false_eq_true, if_false, renderAll_mergeAll hrender hunit]

/-- The units of a merged model are those of the models it is made of, one for one and in order:
the same messages, services and methods with the same links, in another file. So unless a unit is a
whole file, a run makes the same files with and without merging, or fails with the same error, if
its rendering looks at the unit alone. -/
theorem merge_keeps_units {unit : UnitKind} (hunit : unit ≠ .file) (models : List Model) :
    (Model.mergeAll models = none ↔ models = []) ∧
      (∀ merged, Model.mergeAll models = some merged →
        contexts merged unit = (models.flatMap (contexts · unit)).map (·.inFile merged) ∧
          merged.package = firstNonEmptyOf (models.map (·.package))) ∧
      (∀ (render : Context → Except EngineFault RenderedFile) (r : Request) (s : Settings),
        IgnoresFile render → s.unit = unit →
          r.filesBy render (s.merging true) = r.filesBy render (s.merging false)) ∧
      ∀ (kit : Toolkit) (disk : Disk) (r : Request) (together apart : String) (s : Settings)
          (renderer : Renderer kit.engine),
        Settings.ofParameter kit.toml disk together = .ok (s.merging true) →
        Settings.ofParameter kit.toml disk apart = .ok (s.merging false) →
        s.renderer kit disk = .ok renderer → IgnoresFile renderer.render → s.unit = unit →
          ((r.withParameter together).rendering kit disk).map (·.files) =
            ((r.withParameter apart).rendering kit disk).map (·.files) := by
  refine ⟨Model.mergeAll_eq_none, ?_, ?_, ?_⟩
  · intro merged hmerged
    rw [Model.mergeAll_eq_some hmerged]
    exact ⟨contexts_joined hunit models, rfl⟩
  · rintro render r s hrender rfl
    exact r.filesBy_merging hrender hunit
  · rintro kit disk r together apart s renderer htogether hapart hr hrender rfl
    have files : ∀ {parameter allow},
        Settings.ofParameter kit.toml disk parameter = .ok (s.merging allow) →
          ((r.withParameter parameter).rendering kit disk).map (·.files) =
            r.filesBy renderer.render (s.merging allow) := by
      intro parameter allow hs
      rw [← r.withParameter_parameter parameter] at hs
      rw [Request.rendering_files hs ((s.merging_renderer allow kit disk).trans hr),
        Request.filesBy_withParameter]
    rw [files htogether, files hapart]
    exact r.filesBy_merging hrender hunit

/-- Its method takes a message that only the other model has. -/
def payModel : Model :=
  { fileName := "pay"
    services := [{ name := "Pay", methods := [{ name := "Settle", inputType := ".shop.Order" }] }] }

def orderModel : Model :=
  { package := "shop", fileName := "order", messages := [{ name := "Order" }] }

def payRequest : Request :=
  { listed := ["pay", "order"]
    files := [{ name? := some "order", package? := some "shop",
                messages := [{ name? := some "Order" }] },
              { name? := some "pay",
                services := [{ name? := some "PayService",
                               methods := [{ name? := some "Settle"
                                             inputType? := some ".shop.Order" }] }] }] }

def callDisk : Disk := ⟨[(["t"], .file "call".toUTF8)]⟩

def callSettings : Settings := ⟨"t", .go, "calls.go", .method, false, true, true⟩

def callParameter : String := "template=t,lang=go,output_path=calls.go,generate_type=method"

namespace Bundled.Template

def Node.data? : Node → Option String
  | .data s => some s
  | _ => none

theorem eq_data {nodes : List Node} {s : String} (h : nodes.map Node.data? = [some s]) :
    nodes = [.data s] := by
  obtain ⟨node, rfl, hnode⟩ := List.map_eq_singleton_iff.mp h
  cases node with
  | data text => rw [Option.some.inj hnode]
  | _ => cases hnode

theorem Environment.render_data {env : Environment} {name s : String}
    (h : (env.templates.lookup name).map (·.map Node.data?) = some [some s])
    (bindings : List (String × Data)) : env.render name bindings = .ok s := by
  obtain ⟨nodes, hnodes, hdata⟩ := Option.map_eq_some_iff.mp h
  have hrun :
      env.templates.render env.filters [.data s] (Value.ofFields bindings) = .ok (s ++ "") := rfl
  simp only [render, hnodes, eq_data hdata, hrun, String.append_empty]

end Bundled.Template

open Bundled.Template in
theorem call_renderer :
    ∃ renderer, callSettings.renderer .bundled callDisk = .ok renderer ∧
      IgnoresFile renderer.render := by
  -- Whether two expressions are equal is not decided anywhere; two texts are enough here.
  have hdata : (callSettings.renderer .bundled callDisk).map (fun r =>
      let templates := (r.environment : Environment).templates
      ((templates.lookup contentTemplate).map (·.map Node.data?),
        (templates.lookup pathTemplate).map (·.map Node.data?))) =
      .ok (some [some "call"], some [some "calls.go"]) := by decide +kernel
  obtain ⟨r, hr, htemplates⟩ := map_eq_ok.mp hdata
  obtain ⟨hcontent, hpath⟩ := Prod.mk.inj htemplates
  have hrender : ∀ c, r.render c = .ok ⟨Text.trim "calls.go", "call"⟩ := fun c => by
    have hc : r.content c = .ok "call" := Environment.render_data hcontent _
    have hp : r.path c = .ok "calls.go" := Environment.render_data hpath _
    rw [Renderer.render, hc, hp]
  exact ⟨r, hr, fun c file => by rw [hrender, hrender]⟩

/-- The merged model could link the method, and does not. -/
theorem pay_units_merged :
    buildModels payRequest (callSettings.merging false) = .ok [payModel, orderModel] ∧
      (∃ merged, Model.mergeAll [payModel, orderModel] = some merged ∧
        merged.package = "shop" ∧
        (Index.ofMessages merged.package merged.messages).get? ".shop.Order" =
          some { name := "Order" } ∧
        contexts merged .method =
          [⟨merged, none, payModel.services[0]?,
            some { name := "Settle", inputType := ".shop.Order" }⟩]) ∧
      ((payRequest.withParameter (callParameter ++ ",allow_merge=true")).rendering .bundled
          callDisk).map (·.files) =
        ((payRequest.withParameter callParameter).rendering .bundled callDisk).map (·.files) := by
  obtain ⟨-, hunits, -, hruns⟩ :=
    @merge_keeps_units .method (by decide) [payModel, orderModel]
  obtain ⟨hcontexts, hpackage⟩ := hunits _ rfl
  refine ⟨by decide +kernel, ⟨_, rfl, hpackage, by decide +kernel, hcontexts⟩, ?_⟩
  obtain ⟨renderer, hrenderer, hignores⟩ := call_renderer
  exact hruns .bundled callDisk payRequest _ _ callSettings renderer (by decide +kernel)
    (by decide +kernel) hrenderer hignores rfl

/-! ## Groups -/

namespace Model

theorem empty_merge (m : Model) : ({} : Model).merge m = m := rfl

theorem joined_nil : joined [] = {} := rfl

theorem joined_append (front back : List Model) :
    joined (front ++ back) = (joined front).merge (joined back) := by
  induction front with
  | nil => rw [List.nil_append, joined_nil, empty_merge]
  | cons m rest ih => rw [List.cons_append, joined_cons, joined_cons, ih, merge_assoc]

theorem mergeAll_eq (models : List Model) :
    mergeAll models = if models = [] then none else some (joined models) := by
  cases models with
  | nil => rfl
  | cons m rest => rw [mergeAll_cons, if_neg (List.cons_ne_nil m rest)]

/-- A group without models leaves nothing behind, and adds nothing to the whole. -/
theorem joined_groups (groups : List (List Model)) :
    joined (groups.filterMap mergeAll) = joined groups.flatten := by
  induction groups with
  | nil => rfl
  | cons group rest ih =>
    rw [List.flatten_cons, joined_append, ← ih]
    cases group with
    | nil => rw [List.filterMap_cons_none rfl, joined_nil, empty_merge]
    | cons m ms => rw [List.filterMap_cons_some (mergeAll_cons m ms), joined_cons]

theorem filterMap_mergeAll_eq_nil {groups : List (List Model)} :
    groups.filterMap mergeAll = [] ↔ groups.flatten = [] := by
  simp only [List.filterMap_eq_nil_iff, mergeAll_eq_none, List.flatten_eq_nil_iff]

/-- However a list of models is cut into groups of neighbours, merging every group and then what
comes out of the groups is merging the list. The package and the file name of the whole need not
come from the same model. -/
theorem merge_regroups (models : List Model) :
    (∀ groups : List (List Model), groups.flatten = models →
        mergeAll (groups.filterMap mergeAll) = mergeAll models) ∧
      (models ≠ [] → mergeAll models = some
        { package := firstNonEmptyOf (models.map (·.package))
          fileName := firstNonEmptyOf (models.map (·.fileName))
          messages := models.flatMap (·.messages)
          services := models.flatMap (·.services) }) ∧
      ∀ m : Model, m.merge {} = m ∧ ({} : Model).merge m = m ∧ mergeInto none m = m := by
  refine ⟨?_, ?_, fun m => ⟨merge_joined_nil m, empty_merge m, rfl⟩⟩
  · rintro groups rfl
    rw [mergeAll_eq, mergeAll_eq groups.flatten, joined_groups]
    simp only [filterMap_mergeAll_eq_nil]
  · intro hne
    rw [mergeAll_eq, if_neg hne]
    rfl

/-- One group is empty, and one model has neither package nor file name. -/
theorem pay_regrouped :
    [[payModel], [], [{}, orderModel]].filterMap mergeAll =
        [payModel, { package := "shop", fileName := "order", messages := [{ name := "Order" }] }] ∧
      mergeAll ([[payModel], [], [{}, orderModel]].filterMap mergeAll) =
        mergeAll [payModel, {}, orderModel] ∧
      mergeAll [payModel, {}, orderModel] = some
        { package := "shop", fileName := "pay", messages := orderModel.messages
          services := payModel.services } := by
  obtain ⟨hgroups, hwhole, -⟩ := merge_regroups [payModel, {}, orderModel]
  exact ⟨rfl, hgroups [[payModel], [], [{}, orderModel]] rfl, hwhole (List.cons_ne_nil _ _)⟩

end Model

end Stencil
