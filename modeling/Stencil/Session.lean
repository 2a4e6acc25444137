import Stencil.Model.Link
import Stencil.Model.Merge

/-!
# Stencil.Session

Work on named models. A session holds a builder and slots, each empty or with a model in it.

* `Step`          — one operation on the slots.
* `Session.apply` — the session after a step, and what the step answers.
* `Session.run`   — the answers of a list of steps.
-/

namespace Stencil

structure Session where
  builder : Builder := { language := .typescript }
  slots : List (String × Model) := []

namespace Session

def get? (s : Session) (slot : String) : Option Model :=
  s.slots.lookup slot

def erase (s : Session) (slot : String) : Session :=
  { s with slots := s.slots.filter (·.1 != slot) }

def put (s : Session) (slot : String) (m : Model) : Session :=
  { s with slots := (slot, m) :: (s.erase slot).slots }

end Session

inductive Step where
  | builder (b : Builder)
  | build (slot : String) (file : FileDecl)
  | literal (slot : String) (m : Model)
  | copy (slot source : String)
  | merge (slot source : String)
  | mergeInto (slot source : String)
  | mergeAll (slot : String) (sources : List String)
  | relink (slot : String) (services : List ServiceDecl)
  | drop (slot : String)
  | equal (slot source : String)

inductive Answer where
  | builder (b : Builder)
  | failed (e : BuildError)
  | model (m : Option Model)
  | equal (same : Bool)

namespace Session

/-- Fills a slot and answers the model in it. -/
def answer (s : Session) (slot : String) (m : Model) : Session × Answer :=
  (s.put slot m, .model (some m))

/-- In `merge` and `mergeInto` the slot is emptied before the source is read. -/
def apply (s : Session) : Step → Session × Answer
  | .builder b => ({ s with builder := b }, .builder b)
  | .build slot file =>
    match s.builder.model file with
    | .ok m => s.answer slot m
    | .error e => (s, .failed e)
  | .literal slot m => s.answer slot m
  | .copy slot source =>
    match s.get? source with
    | some m => s.answer slot m
    | none => (s, .model none)
  | .merge slot source =>
    match s.get? slot, (s.erase slot).get? source with
    | some m, some next => s.answer slot (m.merge next)
    | some m, none => s.answer slot m
    | none, _ => (s, .model none)
  | .mergeInto slot source =>
    match (s.erase slot).get? source with
    | some next => s.answer slot (Model.mergeInto (s.get? slot) next)
    | none => (s.erase slot, .model none)
  | .mergeAll slot sources =>
    match Model.mergeAll (sources.filterMap s.get?) with
    | some m => s.answer slot m
    | none => (s, .model none)
  | .relink slot services =>
    match s.get? slot with
    | some m => s.answer slot (m.relink services)
    | none => (s, .model none)
  | .drop slot => (s.erase slot, .model none)
  | .equal slot source => (s, .equal (s.get? slot == s.get? source))

def run (s : Session) : List Step → List Answer
  | [] => []
  | step :: rest =>
    let (next, answer) := s.apply step
    answer :: next.run rest

end Session

end Stencil
