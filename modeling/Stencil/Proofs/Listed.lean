import Stencil.Proofs.InOrder
import Stencil.Proofs.Merging

/-!
# Stencil.Proofs.Listed

Which declared files a run depends on.

* `lastNamed?`   — the last of several files that bears a name.
* `Attempted`    — what comes of a listed name.
* `buildModels_eq_ok`, `buildModels_eq_error` — the models of all listed names, or the failure of the
  first that has none.

Files are looked up by the names on the list and by nothing else, so two requests that agree there
are the same to every stage behind (`unlisted_files_ignored`).
-/

namespace Stencil

def lastNamed? (files : List FileDecl) (name : String) : Option FileDecl :=
  (files.filter (·.name == name)).getLast?

inductive Attempted (files : List FileDecl) (b : Builder) (name : String) :
    Except Failure Model → Prop where
  | missing : lastNamed? files name = none → Attempted files b name (.error (.missingFile name))
  | unbuilt {file : FileDecl} {e : BuildError} :
      lastNamed? files name = some file → b.model file = .error e →
        Attempted files b name (.error (.build e))
  | built {file : FileDecl} {m : Model} :
      lastNamed? files name = some file → b.model file = .ok m → Attempted files b name (.ok m)

theorem Request.file?_eq (r : Request) (name : String) : r.file? name = lastNamed? r.files name := by
  rw [Request.file?, lastNamed?, ← List.head?_filter, List.filter_reverse, List.head?_reverse]

theorem Request.attempt_eq_iff (r : Request) (b : Builder) (name : String)
    (result : Except Failure Model) :
    r.attempt b name = result ↔ Attempted r.files b name result := by
  rw [Request.attempt, Request.file?_eq]
  constructor
  · rintro rfl
    cases hfile : lastNamed? r.files name with
    | none => exact .missing hfile
    | some file =>
      cases hm : b.model file with
      | error e =>
        simp only [hm]
        exact .unbuilt hfile hm
      | ok m =>
        simp only [hm]
        exact .built hfile hm
  · intro h
    cases h with
    | missing hfile => rw [hfile]
    | unbuilt hfile hm => simp only [hfile, hm]
    | built hfile hm => simp only [hfile, hm]

theorem Attempted.unique {files : List FileDecl} {b : Builder} {name : String}
    {result result' : Except Failure Model} (h : Attempted files b name result)
    (h' : Attempted files b name result') : result = result' := by
  have hattempt := fun result => Request.attempt_eq_iff { files } b name result
  exact ((hattempt result).mpr h).symm.trans ((hattempt result').mpr h')

/-- With merging the models are one, unless there is none. -/
def Settings.merged (s : Settings) (models : List Model) : List Model :=
  if s.allowMerge then (Model.mergeAll models).toList else models

theorem buildModels_eq_mapM (r : Request) (s : Settings) :
    buildModels r s = (r.listed.mapM (r.attempt s.builder)).map s.merged := by
  rw [buildModels_eq, attemptAll_eq_mapM]
  rfl

theorem buildModels_eq_error {r : Request} {s : Settings} {e : Failure} :
    buildModels r s = .error e ↔ FirstFailure (Attempted r.files s.builder) r.listed e := by
  rw [buildModels_eq_mapM, ← mapM_eq_error (r.attempt_eq_iff s.builder)]
  cases r.listed.mapM (r.attempt s.builder) <;> simp [Except.map]

theorem buildModels_eq_ok {r : Request} {s : Settings} {models : List Model} :
    buildModels r s = .ok models ↔
      ∃ built, AllSucceed (Attempted r.files s.builder) r.listed built ∧
        models = s.merged built := by
  simp only [buildModels_eq_mapM, ← mapM_eq_ok (r.attempt_eq_iff s.builder)]
  cases r.listed.mapM (r.attempt s.builder) <;> simp [Except.map, eq_comm]

/-! ## Two requests -/

/-- The same parameter and list, and for each listed name the same last file of that name, if any. -/
structure SameListed (r₁ r₂ : Request) : Prop where
  parameter : r₁.parameter = r₂.parameter
  listed : r₁.listed = r₂.listed
  files : ∀ name ∈ r₁.listed, lastNamed? r₁.files name = lastNamed? r₂.files name

namespace SameListed

variable {r₁ r₂ : Request} (h : SameListed r₁ r₂)
include h

theorem attempt (b : Builder) : ∀ name ∈ r₁.listed, r₁.attempt b name = r₂.attempt b name := by
  intro name hname
  rw [Request.attempt, Request.attempt, Request.file?_eq, Request.file?_eq, h.files name hname]

theorem buildModels (s : Settings) : buildModels r₁ s = buildModels r₂ s := by
  have hattempts : r₁.listed.mapM (r₁.attempt s.builder) =
      r₁.listed.mapM (r₂.attempt s.builder) := mapM_congr (h.attempt s.builder)
  rw [buildModels_eq_mapM, buildModels_eq_mapM, hattempts, h.listed]

theorem rendering (kit : Toolkit) (disk : Disk) : r₁.rendering kit disk = r₂.rendering kit disk := by
  have hsettings : Settings.read kit.toml disk r₁ = Settings.read kit.toml disk r₂ := by
    rw [Settings.read, Settings.read, h.parameter]
  simp only [Request.rendering, hsettings, h.buildModels]

theorem generate (kit : Toolkit) (disk : Disk) (root : String) :
    generate kit disk root r₁ = generate kit disk root r₂ := by
  simp only [Stencil.generate, h.rendering kit disk]

end SameListed

/-- Two requests with the same parameter and list, in which each listed name has the same last file
or none, get the same models and, with any toolkit, the same answer. Without merging these are the
models of the listed names one for one, and a failure is that of the first name without a file or
without a model. -/
theorem unlisted_files_ignored {r₁ r₂ : Request} (h : SameListed r₁ r₂) :
    (∀ s, buildModels r₁ s = buildModels r₂ s) ∧
      (∀ (kit : Toolkit) disk root, generate kit disk root r₁ = generate kit disk root r₂) ∧
      (∀ s models, s.allowMerge = false →
        (buildModels r₁ s = .ok models ↔
          List.Forall₂ (fun name m => Attempted r₁.files s.builder name (.ok m)) r₁.listed
            models)) ∧
      ∀ s e, buildModels r₁ s = .error e ↔
        ∃ before name after, r₁.listed = before ++ name :: after ∧
          (∀ other ∈ before, ∃ m, Attempted r₁.files s.builder other (.ok m)) ∧
          Attempted r₁.files s.builder name (.error e) := by
  refine ⟨h.buildModels, h.generate, ?_, fun s e => buildModels_eq_error⟩
  intro s models happart
  have hmerged : s.merged = id := by
    funext built
    simp [Settings.merged, happart]
  simp only [buildModels_eq_ok, hmerged, id_eq, exists_eq_right']
  rfl

def labelSettings : Settings := ⟨"t", .go, "{{message.name}}", .message, false, true, true⟩

def labelDisk : Disk := ⟨[(["t"], .file "{{file.file_name}}".toUTF8)]⟩

def labelFiles : List FileDecl :=
  [{ name? := some "shop", messages := [{ name? := some "Order" }] },
    { messages := [{ name? := some "Nameless" }] }]

/-- An unnamed file goes by the empty name. -/
def labelRequest : Request :=
  { listed := ["shop", "", "shop"]
    parameter? := some "template=t,lang=go,output_path={{message.name}},generate_type=message"
    files := labelFiles }

/-- Before the last file named `shop` stands one that cannot be built, and so does another. -/
def crowdedRequest : Request :=
  { labelRequest with
    files := { name? := some "shop", messages := [{ fields := [{ name? := some "x" }] }] } ::
      labelFiles ++ [{ name? := some "other", messages := [{ fields := [{ name? := some "y" }] }] }] }

theorem crowd_ignored :
    buildModels crowdedRequest labelSettings =
        .ok [{ fileName := "shop", messages := [{ name := "Order" }] },
          { messages := [{ name := "Nameless" }] },
          { fileName := "shop", messages := [{ name := "Order" }] }] ∧
      generate .bundled labelDisk "out" crowdedRequest =
        .ok (Response.ofFiles [⟨"Order", "shop"⟩, ⟨"Nameless", ""⟩]) ∧
      ∃ models, List.Forall₂
        (fun name m => Attempted labelFiles labelSettings.builder name (.ok m))
        ["shop", "", "shop"] models := by
  have hfiles : ∀ name ∈ labelRequest.listed,
      lastNamed? labelRequest.files name = lastNamed? crowdedRequest.files name := by
    intro name hname
    simp only [labelRequest, List.mem_cons, List.not_mem_nil, or_false] at hname
    rcases hname with rfl | rfl | rfl <;> rfl
  obtain ⟨hmodels, hgenerate, hbuilt, -⟩ :=
    @unlisted_files_ignored labelRequest crowdedRequest ⟨rfl, rfl, hfiles⟩
  have hlabels : buildModels labelRequest labelSettings =
      .ok [{ fileName := "shop", messages := [{ name := "Order" }] },
        { messages := [{ name := "Nameless" }] },
        { fileName := "shop", messages := [{ name := "Order" }] }] := by decide +kernel
  rw [← hmodels, ← hgenerate]
  exact ⟨hlabels, by decide +kernel, _, (hbuilt _ _ rfl).mp hlabels⟩

end Stencil
