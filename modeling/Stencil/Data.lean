/-!
# Stencil.Data

Values without behaviour: what templates are given, and what is shown of a model.
-/

namespace Stencil

inductive Data where
  | nothing
  | boolean (b : Bool)
  | text (s : String)
  | list (items : List Data)
  | record (fields : List (String × Data))

def Data.ofOption {α : Type} (data : α → Data) : Option α → Data
  | some a => data a
  | none => nothing

end Stencil
