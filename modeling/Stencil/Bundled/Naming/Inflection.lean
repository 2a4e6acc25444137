import Stencil.Bundled.Naming.InflectionTable
import Stencil.Text.Letter

/-!
# Stencil.Bundled.Naming.Inflection

Singular and plural of English words.

* `recased`  — a replacement in the case of the word it replaces.
* `plural?`, `singular?` — the other number of a word.

There is no result for the few words that begin with a capital and whose replacement begins
outside ASCII.
-/

namespace Stencil.Bundled.Naming

/-- A replacement follows a word that is all in one case; a word with a capital in front keeps it as
it is, and any other word makes it small. -/
def recased (word replacement : String) : Option String :=
  if word = replacement then some replacement
  else if word = Text.lower word then some (Text.lower replacement)
  else if word = Text.upper word then some (Text.upper replacement)
  else if word.toList.head?.any Text.isCapital then
    if replacement.toList.head?.any (·.toNat > 127) then none else some replacement
  else some (Text.lower replacement)

/-- A text with `$i`, `$(i+1)`, … replaced by the groups, each in the case of the word. -/
def fillGroups (word : String) (i : Nat) : List String → List Char → Option (List Char)
  | [], text => some text
  | g :: groups, text =>
    match recased word g with
    | none => none
    | some g =>
      fillGroups word (i + 1) groups (Text.replaceAll ('$' :: Nat.toDigits 10 i) g.toList text)

/-- A text without references: each `$` goes with the character behind it, if there is one. -/
def dropReferences : List Char → List Char
  | ['$'] => []
  | '$' :: _ :: rest => dropReferences rest
  | c :: rest => c :: dropReferences rest
  | [] => []

/-- `none` if the ending does not fit, otherwise the outcome of the rule. -/
def Rule.outcome? (rule : Rule) (word : String) : Option (Option String) :=
  (rule.ending.find? word).map fun (before, groups) => do
    let replacement ← recased word rule.replacement
    let ending ← fillGroups word 0 groups replacement.toList
    return String.ofList (dropReferences (before.toList ++ ending))

/-- The other number by a map of irregular words and by rules, of which the last that fits is
applied. A word that is settled, because it has the wanted number, stays, as does one that has only
one form. -/
def inflected (settled : List String) (forms : List (String × String)) (rules : List Rule)
    (word : String) : Option String :=
  let token := Text.lower word
  if settled.contains token then recased word token
  else
    match forms.lookup token with
    | some other => recased word other
    | none =>
      if token.isEmpty || unchangedWords.contains token then some word
      else
        let all := rules ++ unchangedEndings.map fun e => ⟨e, "$0"⟩
        (all.reverse.findSome? (·.outcome? word)).getD (some word)

def plural? (word : String) : Option String :=
  inflected (irregular.map (·.2)) irregular pluralRules word

/-- Of several singulars with one plural the last in the table counts. -/
def singular? (word : String) : Option String :=
  inflected (irregular.map (·.1)) (irregular.reverse.map Prod.swap) singularRules word

end Stencil.Bundled.Naming
