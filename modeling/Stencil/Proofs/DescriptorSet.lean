import Mathlib
import Stencil.Proofs.Listed

/-!
# Stencil.Proofs.DescriptorSet

What is built from a descriptor set when no files are listed.

* `StandsFor`       — the last file of a set that bears the name of another.
* `SetModels`       — the models of a whole set, one for every file.
* `whole_set_built` — the request for the whole set comes to these models, or to their merge.

The list is made from the names in the set, and the files are looked up by these names again. So
every name on the list is found, and the first of two files of one name is never built.
-/

namespace Stencil

def StandsFor (files : List FileDecl) (file last : FileDecl) : Prop :=
  ∃ before after, files = before ++ last :: after ∧ last.name = file.name ∧
    ∀ other ∈ after, other.name ≠ file.name

theorem lastNamed?_eq_some {files : List FileDecl} {file last : FileDecl} :
    lastNamed? files file.name = some last ↔ StandsFor files file last := by
  rw [← Request.file?_eq { files }, Request.file?, List.find?_eq_some_iff_append]
  constructor
  · rintro ⟨hname, after, before, hsplit, hafter⟩
    refine ⟨before.reverse, after.reverse, ?_, by simpa using hname, by simpa using hafter⟩
    rw [← List.reverse_inj, hsplit]
    simp
  · rintro ⟨before, after, hsplit, hname, hafter⟩
    refine ⟨by simpa using hname, after.reverse, before.reverse, ?_, by simpa using hafter⟩
    rw [hsplit]
    simp

theorem exists_standsFor {files : List FileDecl} {file : FileDecl} (h : file ∈ files) :
    ∃ last, StandsFor files file last := by
  have hne : files.filter (·.name == file.name) ≠ [] :=
    List.ne_nil_of_mem (List.mem_filter.mpr ⟨h, beq_self_eq_true _⟩)
  exact ⟨_, lastNamed?_eq_some.mp (List.getLast?_eq_some_getLast hne)⟩

theorem StandsFor.mem {files : List FileDecl} {file last : FileDecl}
    (h : StandsFor files file last) : last ∈ files := by
  obtain ⟨before, after, rfl, -, -⟩ := h
  exact List.mem_append_right before List.mem_cons_self

/-- Among files of different names each stands for itself. -/
theorem standsFor_iff_eq {files : List FileDecl} (hn : (files.map (·.name)).Nodup)
    {file last : FileDecl} (hfile : file ∈ files) : StandsFor files file last ↔ last = file := by
  have heq : ∀ last, StandsFor files file last → last = file := by
    intro last h
    have hmem := h.mem
    obtain ⟨-, -, -, hname, -⟩ := h
    exact List.inj_on_of_nodup_map hn hmem hfile hname
  constructor
  · exact heq last
  · rintro rfl
    obtain ⟨last', h⟩ := exists_standsFor hfile
    exact heq last' h ▸ h

/-- One model for every file, in order. -/
def SetModels (files : List FileDecl) (b : Builder) : List Model → Prop :=
  List.Forall₂ (fun file m => ∃ last, StandsFor files file last ∧ b.model last = .ok m) files

theorem attempted_ok_iff {files : List FileDecl} {b : Builder} {file : FileDecl} {m : Model} :
    Attempted files b file.name (.ok m) ↔
      ∃ last, StandsFor files file last ∧ b.model last = .ok m := by
  constructor
  · intro h
    cases h with
    | built hlast hm => exact ⟨_, lastNamed?_eq_some.mp hlast, hm⟩
  · rintro ⟨last, hlast, hm⟩
    exact .built (lastNamed?_eq_some.mpr hlast) hm

theorem allSucceed_names_iff {files : List FileDecl} {b : Builder} {models : List Model} :
    AllSucceed (Attempted files b) (files.map (·.name)) models ↔ SetModels files b models := by
  rw [AllSucceed, List.forall₂_map_left_iff, SetModels]
  simp only [attempted_ok_iff]

/-- A name on the list is the name of a file, so what fails is a build. -/
theorem not_missing_names {files : List FileDecl} {b : Builder} {e : Failure}
    (h : FirstFailure (Attempted files b) (files.map (·.name)) e) :
    ∃ file ∈ files, ∃ fault, b.model file = .error fault ∧ e = .build fault := by
  obtain ⟨before, name, after, hnames, -, hfails⟩ := h
  obtain ⟨file, hfile, rfl⟩ : ∃ file ∈ files, file.name = name := by
    rw [← List.mem_map, hnames]
    exact List.mem_append_right before List.mem_cons_self
  cases hfails with
  | missing hnone =>
    obtain ⟨last, hlast⟩ := exists_standsFor hfile
    rw [lastNamed?_eq_some.mpr hlast] at hnone
    cases hnone
  | unbuilt hlast hfault => exact ⟨_, (lastNamed?_eq_some.mp hlast).mem, _, hfault, rfl⟩

theorem setModels_iff_of_nodup {files : List FileDecl} (hn : (files.map (·.name)).Nodup)
    (b : Builder) (models : List Model) :
    SetModels files b models ↔ List.Forall₂ (fun file m => b.model file = .ok m) files models := by
  rw [SetModels, List.forall₂_iff_get, List.forall₂_iff_get]
  simp [standsFor_iff_eq hn (List.getElem_mem _)]

/-- However sets are decoded, a request for a whole set never asks for a file that is missing: it
fails only with a file that cannot be built. Otherwise there is a model for every file of the set,
in order and also for files without a name, made of the last file of its name, which is the file
itself where no two names are the same. With merging these models become one, unless the set is
empty. -/
theorem whole_set_built {codec : Codec} {bytes : ByteArray} {files : List FileDecl}
    (hset : codec.descriptorSet bytes = .ok files) (parameter : String) :
    ∃ r, Request.ofDescriptorSet codec bytes parameter [] = .ok r ∧ r.parameter = parameter ∧
      (∀ s name, buildModels r s ≠ .error (.missingFile name)) ∧
      (∀ s e, buildModels r s = .error e →
        ∃ file ∈ files, ∃ fault, s.builder.model file = .error fault ∧ e = .build fault) ∧
      (∀ s models, s.allowMerge = false →
        (buildModels r s = .ok models ↔ SetModels files s.builder models)) ∧
      (∀ s models, s.allowMerge = true →
        (buildModels r s = .ok models ↔ ∃ built, SetModels files s.builder built ∧
          (files = [] ∧ models = [] ∨
            ∃ merged, Model.mergeAll built = some merged ∧ models = [merged]))) ∧
      ((files.map (·.name)).Nodup → ∀ b models,
        SetModels files b models ↔
          List.Forall₂ (fun file m => b.model file = .ok m) files models) := by
  have hfails : ∀ s e, buildModels (Request.ofSet files parameter []) s = .error e →
      ∃ file ∈ files, ∃ fault, s.builder.model file = .error fault ∧ e = .build fault :=
    fun s e h => not_missing_names (buildModels_eq_error.mp h)
  have hok : ∀ s models, buildModels (Request.ofSet files parameter []) s = .ok models ↔
      ∃ built, SetModels files s.builder built ∧ models = s.merged built := by
    intro s models
    rw [buildModels_eq_ok]
    simp only [← allSucceed_names_iff]
    rfl
  refine ⟨Request.ofSet files parameter [], ?_, rfl, ?_, hfails, ?_, ?_, setModels_iff_of_nodup⟩
  · rw [Request.ofDescriptorSet, hset]
  · intro s name h
    obtain ⟨-, -, fault, -, heq⟩ := hfails s _ h
    cases heq
  · intro s models happart
    simp [hok, Settings.merged, happart]
  · intro s models hmerge
    rw [hok]
    refine exists_congr fun built => and_congr_right fun hbuilt => ?_
    rw [Settings.merged, if_pos hmerge, Model.mergeAll_eq]
    have hnil : built = [] ↔ files = [] := by
      rw [← List.length_eq_zero_iff, ← hbuilt.length_eq, List.length_eq_zero_iff]
    by_cases hempty : files = [] <;> simp [hnil, hempty]

/-- Three files: one named `a` with a message `Old`, one without a name with a message `Free`, and
another named `a` with a message `New`. -/
def ledgerBytes : ByteArray :=
  ⟨#[0x0A, 10, 0x0A, 1, 0x61, 0x22, 5, 0x0A, 3, 0x4F, 0x6C, 0x64,
    0x0A, 8, 0x22, 6, 0x0A, 4, 0x46, 0x72, 0x65, 0x65,
    0x0A, 10, 0x0A, 1, 0x61, 0x22, 5, 0x0A, 3, 0x4E, 0x65, 0x77]⟩

def ledgerFiles : List FileDecl :=
  [{ name? := some "a", messages := [{ name? := some "Old" }] },
    { messages := [{ name? := some "Free" }] },
    { name? := some "a", messages := [{ name? := some "New" }] }]

def ledgerModels : List Model :=
  [{ fileName := "a", messages := [{ name := "New" }] }, { messages := [{ name := "Free" }] },
    { fileName := "a", messages := [{ name := "New" }] }]

theorem ledger_models : SetModels ledgerFiles labelSettings.builder ledgerModels := by
  have hnew : ∀ file : FileDecl, file.name = "a" →
      StandsFor ledgerFiles file { name? := some "a", messages := [{ name? := some "New" }] } :=
    fun file hname => ⟨ledgerFiles.take 2, [], rfl, hname.symm, nofun⟩
  refine .cons ⟨_, hnew _ rfl, by decide +kernel⟩ (.cons ?_ (.cons ?_ .nil))
  · exact ⟨_, ⟨ledgerFiles.take 1, ledgerFiles.drop 2, rfl, rfl, by decide⟩, by decide +kernel⟩
  · exact ⟨_, hnew _ rfl, by decide +kernel⟩

/-- The file without a name has its model, and that of the last `a` stands twice. -/
theorem ledger_built :
    Bundled.codec.descriptorSet ledgerBytes = .ok ledgerFiles ∧
      ∃ r, Request.ofDescriptorSet Bundled.codec ledgerBytes "" [] = .ok r ∧
        buildModels r labelSettings = .ok ledgerModels ∧
        buildModels r (labelSettings.merging true) =
          .ok [{ fileName := "a",
                 messages := [{ name := "New" }, { name := "Free" }, { name := "New" }] }] := by
  have hset : Bundled.codec.descriptorSet ledgerBytes = .ok ledgerFiles := by cbv
  obtain ⟨r, hr, -, -, -, hapart, htogether, -⟩ := whole_set_built hset ""
  refine ⟨hset, r, hr, (hapart _ _ rfl).mpr ledger_models, (htogether _ _ rfl).mpr ?_⟩
  exact ⟨ledgerModels, ledger_models, .inr ⟨_, rfl, rfl⟩⟩

end Stencil
