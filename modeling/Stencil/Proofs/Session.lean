import Stencil.Proofs.Assoc
import Stencil.Proofs.Linking
import Stencil.Session

/-!
# Stencil.Proofs.Session

What holds of every model that comes out of builds, merges and relinks, in any order.

* `Service.Sound`, `Model.Sound` — the invariant: only proper messages, and services that are
  linked against one run of them.
* `Session.after` — the session after a list of steps.

Each operation on models keeps the invariant (`merge_sound`, `mergeAll_sound`, `relink_sound`), so
a step of a session does (`apply_sound`), and `reachable_sound` follows by induction on the steps.
-/

namespace Stencil

/-- The methods of a service look all their types up in the messages of the service, which stand
together in those of the model. -/
structure Service.Sound (messages : List Message) (s : Service) : Prop where
  within : s.messages <:+: messages
  linked : ∃ package, ∀ m ∈ s.methods,
    m.input = s.messages.find? (·.qualifiedName package == m.inputType) ∧
    m.output = s.messages.find? (·.qualifiedName package == m.outputType)

structure Model.Sound (m : Model) : Prop where
  messages : ∀ x ∈ m.messages, x.Proper
  services : ∀ s ∈ m.services, s.Sound m.messages

theorem Service.Sound.mono {s : Service} {messages more : List Message} (h : s.Sound messages)
    (hmore : messages <:+: more) : s.Sound more :=
  ⟨h.within.trans hmore, h.linked⟩

/-! ## Operations on models -/

theorem linkAll_sound (package : String) (services : List ServiceDecl) (messages : List Message) :
    ∀ s ∈ linkAll package services messages, s.Sound messages := by
  intro s hs
  obtain ⟨decl, -, rfl⟩ := List.mem_map.mp hs
  refine ⟨List.infix_refl messages, package, fun m hm => ?_⟩
  obtain ⟨method, -, rfl⟩ := List.mem_map.mp hm
  exact ⟨Index.get?_ofMessages package messages method.inputType,
    Index.get?_ofMessages package messages method.outputType⟩

theorem model_sound {b : Builder} {file : FileDecl} {m : Model} (h : b.model file = .ok m) :
    m.Sound := by
  obtain ⟨roots, hr, rfl⟩ := Builder.model_eq_ok.mp h
  exact ⟨listed_proper hr b.flatten, linkAll_sound file.package file.services _⟩

theorem relink_sound {m : Model} (h : m.Sound) (services : List ServiceDecl) :
    (m.relink services).Sound :=
  ⟨h.messages, linkAll_sound m.package services m.messages⟩

theorem merge_sound {a b : Model} (ha : a.Sound) (hb : b.Sound) : (a.merge b).Sound := by
  constructor
  · intro x hx
    rcases List.mem_append.mp hx with hx | hx
    · exact ha.messages x hx
    · exact hb.messages x hx
  · intro s hs
    rcases List.mem_append.mp hs with hs | hs
    · exact (ha.services s hs).mono (List.prefix_append a.messages b.messages).isInfix
    · exact (hb.services s hs).mono (List.suffix_append a.messages b.messages).isInfix

theorem mergeInto_sound {acc : Option Model} {next : Model} (hacc : ∀ m, acc = some m → m.Sound)
    (hnext : next.Sound) : (Model.mergeInto acc next).Sound := by
  cases acc with
  | none => exact hnext
  | some m => exact merge_sound (hacc m rfl) hnext

theorem mergeAll_sound {models : List Model} (h : ∀ m ∈ models, m.Sound) {m : Model}
    (hm : Model.mergeAll models = some m) : m.Sound := by
  -- there is no accumulator before the first model
  suffices hfold : ∀ acc : Option Model, (∀ m, acc = some m → m.Sound) → ∀ m,
      models.foldl (fun acc next => some (Model.mergeInto acc next)) acc = some m → m.Sound from
    hfold none (by simp) m hm
  clear hm
  induction models with
  | nil => exact fun acc hacc m hm => hacc m hm
  | cons next rest ih =>
    intro acc hacc m hm
    refine ih (fun x hx => h x (.tail next hx)) _ ?_ m hm
    rintro x hx
    cases hx
    exact mergeInto_sound hacc (h next List.mem_cons_self)

/-! ## Sessions -/

namespace Session

def Sound (s : Session) : Prop := ∀ slot m, s.get? slot = some m → m.Sound

theorem get?_erase (s : Session) (slot other : String) :
    (s.erase slot).get? other = if other == slot then none else s.get? other :=
  lookup_filter_ne s.slots slot other

theorem get?_put (s : Session) (slot other : String) (m : Model) :
    (s.put slot m).get? other = if other == slot then some m else s.get? other :=
  lookup_put s.slots slot other m

theorem erase_sound {s : Session} (h : s.Sound) (slot : String) : (s.erase slot).Sound := by
  intro other m hm
  rw [get?_erase] at hm
  split at hm
  · cases hm
  · exact h other m hm

theorem put_sound {s : Session} (h : s.Sound) (slot : String) {m : Model} (hm : m.Sound) :
    (s.put slot m).Sound := by
  intro other x hx
  rw [get?_put] at hx
  split at hx
  · cases hx
    exact hm
  · exact h other x hx

theorem sound_empty (b : Builder) : Session.Sound ⟨b, []⟩ := by
  intro slot m hm
  cases hm

/-- An answer that shows a model shows a sound one. -/
def AnswerSound (a : Answer) : Prop := ∀ m, a = .model (some m) → m.Sound

theorem answer_sound {s : Session} (h : s.Sound) (slot : String) {m : Model} (hm : m.Sound) :
    (s.answer slot m).1.Sound ∧ AnswerSound (s.answer slot m).2 := by
  refine ⟨put_sound h slot hm, fun x hx => ?_⟩
  cases hx
  exact hm

theorem other_answer_sound {s : Session} (h : s.Sound) {a : Answer}
    (ha : ∀ m, a ≠ .model (some m)) : s.Sound ∧ AnswerSound a :=
  ⟨h, fun m hm => absurd hm (ha m)⟩

end Session

/-- Steps other than this one take models only from builds. -/
def Step.isLiteral : Step → Bool
  | .literal _ _ => true
  | _ => false

namespace Session

theorem apply_sound {s : Session} (h : s.Sound) {step : Step} (hstep : step.isLiteral = false) :
    (s.apply step).1.Sound ∧ AnswerSound (s.apply step).2 := by
  cases step with
  | builder b => exact other_answer_sound h (by simp [apply])
  | build slot file =>
    simp only [apply]
    split
    · rename_i m hm
      exact answer_sound h slot (model_sound hm)
    · exact other_answer_sound h (by simp)
  | literal slot m => cases hstep
  | copy slot source =>
    simp only [apply]
    split
    · rename_i m hm
      exact answer_sound h slot (h source m hm)
    · exact other_answer_sound h (by simp)
  | merge slot source =>
    simp only [apply]
    split
    · rename_i m next hm hnext
      exact answer_sound h slot (merge_sound (h slot m hm) (erase_sound h slot source next hnext))
    · -- there is no source, or it is the slot itself, which is empty by then
      rename_i m hm _
      exact answer_sound h slot (h slot m hm)
    · exact other_answer_sound h (by simp)
  | mergeInto slot source =>
    simp only [apply]
    split
    · rename_i next hnext
      exact answer_sound h slot (mergeInto_sound (h slot) (erase_sound h slot source next hnext))
    · exact other_answer_sound (erase_sound h slot) (by simp)
  | mergeAll slot sources =>
    simp only [apply]
    split
    · rename_i m hm
      refine answer_sound h slot (mergeAll_sound (fun x hx => ?_) hm)
      obtain ⟨source, -, hsource⟩ := List.mem_filterMap.mp hx
      exact h source x hsource
    · exact other_answer_sound h (by simp)
  | relink slot services =>
    simp only [apply]
    split
    · rename_i m hm
      exact answer_sound h slot (relink_sound (h slot m hm) services)
    · exact other_answer_sound h (by simp)
  | drop slot => exact other_answer_sound (erase_sound h slot) (by simp [apply])
  | equal slot source => exact other_answer_sound h (by simp [apply])

def after (s : Session) : List Step → Session
  | [] => s
  | step :: rest => (s.apply step).1.after rest

theorem after_sound {s : Session} (h : s.Sound) {steps : List Step}
    (hsteps : ∀ step ∈ steps, step.isLiteral = false) :
    (s.after steps).Sound ∧ ∀ a ∈ s.run steps, AnswerSound a := by
  induction steps generalizing s with
  | nil => exact ⟨h, by simp [run]⟩
  | cons step rest ih =>
    obtain ⟨hnext, hanswer⟩ := apply_sound h (hsteps step List.mem_cons_self)
    obtain ⟨hafter, hrun⟩ := ih hnext fun x hx => hsteps x (.tail step hx)
    refine ⟨hafter, fun a ha => ?_⟩
    rcases List.mem_cons.mp ha with rfl | ha
    · exact hanswer
    · exact hrun a ha

/-- From empty slots and with models only from builds, every slot holds a sound model after any
steps, and every model answered on the way is sound. -/
theorem reachable_sound (b : Builder) {steps : List Step}
    (hsteps : ∀ step ∈ steps, step.isLiteral = false) :
    (∀ slot m, (after ⟨b, []⟩ steps).get? slot = some m → m.Sound) ∧
      ∀ m, .model (some m) ∈ run ⟨b, []⟩ steps → m.Sound := by
  obtain ⟨hafter, hrun⟩ := after_sound (sound_empty b) hsteps
  exact ⟨hafter, fun m hm => hrun _ hm m rfl⟩

/-- Builds of one file in two ways, merged with each other more than once and linked anew. -/
def orderSteps : List Step :=
  [.build "deep" ordersFile, .builder ⟨.dart, false⟩, .build "flat" ordersFile,
    .merge "deep" "flat", .mergeAll "all" ["deep", "missing", "flat"],
    .relink "all" ordersFile.services, .mergeInto "flat" "all", .drop "deep"]

theorem orders_stay_sound :
    (∀ step ∈ orderSteps, step.isLiteral = false) ∧
      ∃ m, (after ⟨⟨.go, true⟩, []⟩ orderSteps).get? "flat" = some m ∧
        m.messages.length = 13 ∧ m.services.length = 2 ∧ m.Sound := by
  have hsteps : ∀ step ∈ orderSteps, step.isLiteral = false := by decide
  obtain ⟨m, hm⟩ : ∃ m, (after ⟨⟨.go, true⟩, []⟩ orderSteps).get? "flat" = some m := ⟨_, rfl⟩
  have hsound := (reachable_sound ⟨.go, true⟩ hsteps).1 "flat" m hm
  refine ⟨hsteps, m, hm, ?_, ?_, hsound⟩
  · cases hm
    rfl
  · cases hm
    rfl

end Session
end Stencil
