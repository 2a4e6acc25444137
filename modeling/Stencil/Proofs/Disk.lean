import Stencil.Disk
import Stencil.Proofs.Assoc

/-!
# Stencil.Proofs.Disk

What operations on a disk leave as it was.

* `Disk.Extends` — every entry is still the same.
* `Disk.Keeps`   — every entry is still of the same kind; writing a file does this (`write_keeps`).
  Whatever a path leads to, it still leads to something of that kind (`exists?_mono`).
* `Disk.Paves`   — there are new directories on a way, and nothing else is new or different; making
  directories does this (`makeDirs_paves`).
* `Disk.IsOpen`  — a directory below directories only. Every file that a path leads to lies in an
  open directory (`find_eq_file`, `enter_isOpen`, `move_eq_concat`).
-/

namespace Stencil
namespace Disk

theorem entry?_nil (d : Disk) : d.entry? [] = some .directory := rfl

theorem entry?_put {d : Disk} {place : List String} (hplace : place ≠ []) (e : Entry)
    (other : List String) :
    entry? (d.put place e) other = if other == place then some e else d.entry? other := by
  cases other with
  | nil =>
    rw [if_neg (by simpa using hplace.symm)]
    rfl
  | cons step rest => exact lookup_put d.entries place (step :: rest) e

def Extends (d d' : Disk) : Prop :=
  ∀ place e, d.entry? place = some e → d'.entry? place = some e

structure Keeps (d d' : Disk) : Prop where
  directories : ∀ place, d.entry? place = some .directory → d'.entry? place = some .directory
  files : ∀ place content, d.entry? place = some (.file content) →
    ∃ content', d'.entry? place = some (.file content')

theorem Extends.refl (d : Disk) : Extends d d := fun _ _ h => h

theorem Extends.keeps {d d' : Disk} (h : Extends d d') : Keeps d d' :=
  ⟨fun place hp => h place _ hp, fun place content hp => ⟨content, h place _ hp⟩⟩

theorem Keeps.refl (d : Disk) : Keeps d d := (Extends.refl d).keeps

theorem Keeps.trans {d₁ d₂ d₃ : Disk} (h₁ : Keeps d₁ d₂) (h₂ : Keeps d₂ d₃) : Keeps d₁ d₃ := by
  refine ⟨fun place h => h₂.directories place (h₁.directories place h), fun place content h => ?_⟩
  obtain ⟨content', h'⟩ := h₁.files place content h
  exact h₂.files place content' h'

/-! ## Writing a file -/

/-- A write that succeeds puts a file where its path leads to, in a directory that is there. -/
theorem write_eq_ok {d d' : Disk} {path : String} {content : ByteArray}
    (h : d.write path content = .ok d') :
    ∃ last place, (Path.steps path).getLast? = some last ∧
      d.enter [] (Path.steps path).dropLast = .ok place ∧ Path.endsWithSlash path = false ∧
      d.entry? (move place last) ≠ some .directory ∧
      d' = d.put (move place last) (.file content) := by
  simp only [write] at h
  split at h
  · cases h
  · split at h
    · cases h
    · rename_i last hlast
      split at h
      · cases h
      · rename_i place hplace
        split at h
        · cases h
        · rename_i hdir
          cases h
          simp only [Bool.or_eq_true, beq_iff_eq, not_or, Bool.not_eq_true] at hdir
          exact ⟨last, place, hlast, hplace, hdir.1, hdir.2, rfl⟩

theorem put_file_keeps {d : Disk} {place : List String} (content : ByteArray)
    (h : d.entry? place ≠ some .directory) : Keeps d (d.put place (.file content)) := by
  have hplace : place ≠ [] := by
    rintro rfl
    exact h d.entry?_nil
  constructor
  · intro other he
    have hne : ¬ (other == place) = true := by
      rintro heq
      rw [eq_of_beq heq] at he
      exact h he
    rw [entry?_put hplace, if_neg hne]
    exact he
  · intro other content' he
    rw [entry?_put hplace]
    split
    · exact ⟨content, rfl⟩
    · exact ⟨content', he⟩

theorem write_keeps {d d' : Disk} {path : String} {content : ByteArray}
    (h : d.write path content = .ok d') : Keeps d d' := by
  obtain ⟨last, place, -, -, -, hdir, rfl⟩ := write_eq_ok h
  exact put_file_keeps content hdir

/-! ## Following paths -/

theorem Keeps.enter {d d' : Disk} (h : Keeps d d') {steps place q : List String}
    (hq : d.enter place steps = .ok q) : d'.enter place steps = .ok q := by
  induction steps generalizing place with
  | nil => exact hq
  | cons step rest ih =>
    simp only [Disk.enter] at hq ⊢
    split at hq
    · rename_i hdir
      rw [h.directories _ hdir]
      exact ih hq
    · cases hq
    · cases hq

theorem locate_eq_ok {d : Disk} {steps place : List String} :
    d.locate steps = .ok place ↔
      (steps = [] ∧ place = []) ∨ ∃ last q, steps.getLast? = some last ∧
        d.enter [] steps.dropLast = .ok q ∧ place = move q last := by
  simp only [locate]
  constructor
  · intro h
    split at h
    · rename_i hnone
      cases h
      exact .inl ⟨List.getLast?_eq_none_iff.mp hnone, rfl⟩
    · rename_i last hlast
      split at h
      · cases h
      · rename_i q hq
        cases h
        exact .inr ⟨last, q, hlast, hq, rfl⟩
  · rintro (⟨rfl, rfl⟩ | ⟨last, q, hlast, hq, rfl⟩)
    · rfl
    · simp only [hlast, hq]

theorem Keeps.locate {d d' : Disk} (h : Keeps d d') {steps place : List String}
    (hplace : d.locate steps = .ok place) : d'.locate steps = .ok place := by
  obtain hnil | ⟨last, q, hlast, hq, rfl⟩ := locate_eq_ok.mp hplace
  · exact locate_eq_ok.mpr (.inl hnil)
  · exact locate_eq_ok.mpr (.inr ⟨last, q, hlast, h.enter hq, rfl⟩)

theorem Keeps.exists?_mono {d d' : Disk} (h : Keeps d d') {path : String}
    (hpath : d.exists? path = true) : d'.exists? path = true := by
  simp only [Disk.exists?, Disk.find] at hpath ⊢
  split at hpath
  · cases hpath
  · split at hpath
    · cases hpath
    · rename_i hempty _ place hplace
      rw [if_neg hempty, h.locate hplace]
      simp only
      split at hpath
      · cases hpath
      · rename_i hdir
        rw [h.directories place hdir]
        rfl
      · rename_i content hfile
        obtain ⟨content', hfile'⟩ := h.files place content hfile
        rw [hfile']
        split at hpath
        · cases hpath
        · rename_i hslash
          simp only [if_neg hslash]
          rfl

theorem enter_eq_foldl {d : Disk} {steps place q : List String}
    (hq : d.enter place steps = .ok q) : q = steps.foldl move place := by
  induction steps generalizing place with
  | nil => cases hq; rfl
  | cons step rest ih =>
    simp only [enter] at hq
    split at hq
    · exact ih hq
    · cases hq
    · cases hq

theorem foldl_eq_move {d : Disk} {steps q : List String} {last : String}
    (hlast : steps.getLast? = some last) (hq : d.enter [] steps.dropLast = .ok q) :
    steps.foldl move [] = move q last := by
  obtain ⟨way, rfl⟩ := List.getLast?_eq_some_iff.mp hlast
  rw [List.dropLast_concat] at hq
  rw [List.foldl_append, ← enter_eq_foldl hq]
  rfl

theorem locate_eq_foldl {d : Disk} {steps place : List String}
    (h : d.locate steps = .ok place) : place = steps.foldl move [] := by
  obtain ⟨rfl, rfl⟩ | ⟨last, q, hlast, hq, rfl⟩ := locate_eq_ok.mp h
  · rfl
  · exact (foldl_eq_move hlast hq).symm

/-! ## Making directories -/

/-- From the working directory the steps come past the place, or end there. -/
def Passes (steps place : List String) : Prop :=
  ∃ front, front <+: steps ∧ front.foldl move [] = place

theorem Passes.mono {steps more place : List String} (h : Passes steps place)
    (hsteps : steps <+: more) : Passes more place := by
  obtain ⟨front, hfront, hplace⟩ := h
  exact ⟨front, hfront.trans hsteps, hplace⟩

/-- Entries differ only on the way, and there only where nothing was. -/
def Paves (steps : List String) (d d' : Disk) : Prop :=
  ∀ place, d'.entry? place ≠ d.entry? place →
    d.entry? place = none ∧ d'.entry? place = some .directory ∧ Passes steps place

theorem Paves.refl (steps : List String) (d : Disk) : Paves steps d d :=
  fun _ h => absurd rfl h

theorem Paves.mono {steps more : List String} {d d' : Disk} (h : Paves steps d d')
    (hsteps : steps <+: more) : Paves more d d' := by
  intro place hchange
  obtain ⟨hnone, hdir, hway⟩ := h place hchange
  exact ⟨hnone, hdir, hway.mono hsteps⟩

theorem Paves.extends {steps : List String} {d d' : Disk} (h : Paves steps d d') :
    Extends d d' := by
  intro place e he
  by_cases hsame : d'.entry? place = d.entry? place
  · rw [hsame, he]
  · obtain ⟨hnone, -, -⟩ := h place hsame
    rw [hnone] at he
    cases he

theorem Paves.trans {steps : List String} {d₁ d₂ d₃ : Disk} (h₁ : Paves steps d₁ d₂)
    (h₂ : Paves steps d₂ d₃) : Paves steps d₁ d₃ := by
  intro place hchange
  by_cases hsame : d₂.entry? place = d₁.entry? place
  · rw [← hsame] at hchange ⊢
    exact h₂ place hchange
  · obtain ⟨hnone, hdir, hway⟩ := h₁ place hsame
    exact ⟨hnone, h₂.extends place _ hdir, hway⟩

theorem makeDir_paves {d d' : Disk} {steps : List String} (h : d.makeDir steps = .ok d') :
    Paves steps d d' := by
  simp only [makeDir] at h
  split at h
  · cases h
  · rename_i place hplace
    split at h
    · cases h
    · rename_i hnone
      cases h
      have hne : place ≠ [] := by
        rintro rfl
        cases hnone
      intro other hchange
      rw [entry?_put hne] at hchange ⊢
      by_cases heq : other = place
      · subst heq
        exact ⟨hnone, if_pos (beq_self_eq_true _), steps, List.prefix_rfl,
          (locate_eq_foldl hplace).symm⟩
      · rw [if_neg (by simpa using heq)] at hchange
        exact absurd rfl hchange

theorem haveDir_paves (d : Disk) (steps : List String) : Paves steps d (d.haveDir steps).1 := by
  simp only [haveDir]
  split
  · rename_i made hmade
    exact makeDir_paves hmade
  · exact Paves.refl steps d

/-- The steps are given from the last to the first here. -/
theorem makeDirsUp_paves (d : Disk) (steps : List String) :
    Paves steps.reverse d (d.makeDirsUp steps).1 := by
  induction steps generalizing d with
  | nil => exact Paves.refl [] d
  | cons last above ih =>
    simp only [makeDirsUp]
    split
    · have hup : Paves (last :: above).reverse d (d.makeDirsUp above).1 := by
        refine (ih d).mono ?_
        rw [List.reverse_cons]
        exact List.prefix_append _ _
      split
      · rename_i made e hmade
        rw [hmade] at hup
        exact hup
      · rename_i made hmade
        rw [hmade] at hup
        exact hup.trans (haveDir_paves made _)
    · exact haveDir_paves d _

theorem makeDirs_paves (d : Disk) (steps : List String) : Paves steps d (d.makeDirs steps).1 := by
  have h := makeDirsUp_paves d steps.reverse
  rwa [List.reverse_reverse] at h

/-! ## Files that paths lead to -/

def IsOpen (d : Disk) (place : List String) : Prop :=
  ∀ above, above <+: place → d.entry? above = some .directory

theorem isOpen_nil (d : Disk) : d.IsOpen [] := by
  intro above h
  rw [List.prefix_nil.mp h, entry?_nil]

theorem IsOpen.move {d : Disk} {place : List String} {step : String} (h : d.IsOpen place)
    (hstep : d.entry? (move place step) = some .directory) : d.IsOpen (move place step) := by
  intro above habove
  unfold Disk.move at habove hstep
  split at habove
  · exact h above habove
  · split at habove
    · exact h above (habove.trans (List.dropLast_prefix place))
    · rename_i hdot hup
      rcases List.prefix_concat_iff.mp habove with rfl | habove
      · rwa [if_neg hdot, if_neg hup] at hstep
      · exact h above habove

theorem enter_isOpen {d : Disk} {steps place q : List String} (h : d.IsOpen place)
    (hq : d.enter place steps = .ok q) : d.IsOpen q := by
  induction steps generalizing place with
  | nil => cases hq; exact h
  | cons step rest ih =>
    simp only [enter] at hq
    split at hq
    · rename_i hdir
      exact ih (h.move hdir) hq
    · cases hq
    · cases hq

/-- From an open directory only a step to a name in it leads to anything else than an open
directory. -/
theorem move_eq_concat {d : Disk} {place : List String} {step : String} (h : d.IsOpen place)
    (hdir : d.entry? (move place step) ≠ some .directory) : move place step = place ++ [step] := by
  unfold move at hdir ⊢
  split at hdir
  · exact absurd (h place (List.prefix_refl place)) hdir
  · split at hdir
    · exact absurd (h _ (List.dropLast_prefix place)) hdir
    · rename_i hdot hup
      rw [if_neg hdot, if_neg hup]

theorem find_eq_file {d : Disk} {path : String} {content : ByteArray} :
    d.find path = .ok (.file content) ↔
      ∃ last place, (Path.steps path).getLast? = some last ∧
        d.enter [] (Path.steps path).dropLast = .ok place ∧ Path.endsWithSlash path = false ∧
        d.entry? (move place last) = some (.file content) := by
  simp only [find]
  constructor
  · intro h
    split at h
    · cases h
    · split at h
      · cases h
      · rename_i target htarget
        split at h
        · cases h
        · cases h
        · rename_i content' hfile
          split at h
          · cases h
          · rename_i hslash
            cases h
            obtain ⟨-, rfl⟩ | ⟨last, place, hlast, hplace, rfl⟩ := locate_eq_ok.mp htarget
            · -- the working directory is no file
              cases hfile
            · exact ⟨last, place, hlast, hplace, by simpa using hslash, hfile⟩
  · rintro ⟨last, place, hlast, hplace, hslash, hfile⟩
    have hne : path.isEmpty = false := by
      cases hempty : path.isEmpty with
      | false => rfl
      | true =>
        rw [String.isEmpty_iff.mp hempty] at hlast
        cases hlast
    have hlocate := locate_eq_ok.mpr (.inr ⟨last, place, hlast, hplace, rfl⟩)
    simp [hne, hlocate, hfile, hslash]

end Disk
end Stencil
