import Stencil.Text.Pieces
import Stencil.Toolkit

/-!
# Stencil.Naming

The filters that templates are given for names.

* `filters` — in another case, in another number, and questions about a part of a name.
-/

namespace Stencil.Naming

def recased (words : Wording) (letters : WordCase) : TextFilter :=
  .onText fun name => some (words.inCase letters name)

def numbered (words : Wording) (count : Int) : TextFilter :=
  .onText fun word => words.counted word count false

def asking (f : (part name : List Char) → Bool) : TextFilter :=
  .asking fun name part => f part.toList name.toList

/-- The camel case of a name begins with a capital unless it is said otherwise. -/
def filters (words : Wording) : List (String × TextFilter) :=
  [("to_camel_case", recased words .pascal),
    ("to_lower_camel_case", recased words .camel),
    ("to_pascal_case", recased words .pascal),
    ("to_snake_case", recased words .snake),
    ("to_kebab_case", recased words .kebab),
    ("to_plural", numbered words 2),
    ("to_singular", numbered words 1),
    ("contains", asking Text.hasPart),
    ("has_prefix", asking List.isPrefixOf),
    ("has_suffix", asking List.isSuffixOf)]

end Stencil.Naming
