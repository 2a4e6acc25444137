import Stencil.Model

/-!
# Stencil.Model.Merge

Several models as one: messages and services one after the other, the package and the file name
each the first that is not empty.
-/

namespace Stencil

def firstNonEmpty (a b : String) : String :=
  if a.isEmpty then b else a

namespace Model

def merge (a b : Model) : Model :=
  { package := firstNonEmpty a.package b.package
    fileName := firstNonEmpty a.fileName b.fileName
    messages := a.messages ++ b.messages
    services := a.services ++ b.services }

/-- An absent accumulator adds nothing. -/
def mergeInto (acc : Option Model) (next : Model) : Model :=
  match acc with
  | some acc => acc.merge next
  | none => next

/-- `none` only for the empty list. -/
def mergeAll (models : List Model) : Option Model :=
  models.foldl (fun acc next => some (mergeInto acc next)) none

end Model

end Stencil
