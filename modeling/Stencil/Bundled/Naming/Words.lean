import Stencil.Text.Letter

/-!
# Stencil.Bundled.Naming.Words

The words inside a name, and the names made from words.

* `words`     — a name cut at separators and where the kind of character changes.
* `snakeCase`, `kebabCase`, `pascalCase`, `lowerCamelCase`.
-/

namespace Stencil.Bundled.Naming

def isSeparator (c : Char) : Bool :=
  c == '_' || c == '-' || c == ' '

/-- A word ends after `c`: before a change of case or between letter and digit, and before the last
of several capitals when a small letter follows it. -/
def endsWord (c : Char) : List Char → Bool
  | [] => false
  | next :: rest =>
    (Text.isLower c && (Text.isUpper next || next.isDigit)) ||
      (Text.isUpper c && next.isDigit) ||
      (c.isDigit && (Text.isLower next || Text.isUpper next)) ||
      (Text.isUpper c && Text.isUpper next && rest.head?.any Text.isLower)

/-- At least one word, which may be empty. -/
def wordsFrom : List Char → List (List Char)
  | [] => [[]]
  | c :: rest =>
    if isSeparator c then [] :: wordsFrom rest
    else if endsWord c rest then [c] :: wordsFrom rest
    else
      match wordsFrom rest with
      | [] => [[c]]
      | word :: more => (c :: word) :: more

/-- Separators are dropped and leave empty words at the ends and between them. The empty name has
no words. -/
def words (name : String) : List String :=
  if name.isEmpty then [] else (wordsFrom name.toList).map String.ofList

/-- The first character in upper case and the others in lower case. -/
def capitalized (word : String) : String :=
  match word.toList with
  | [] => ""
  | c :: rest => String.ofList (Text.upperChar c ++ Text.lowerAfter [] rest)

def snakeCase (name : String) : String :=
  "_".intercalate ((words name).map Text.lower)

def kebabCase (name : String) : String :=
  "-".intercalate ((words name).map Text.lower)

def pascalCase (name : String) : String :=
  String.join ((words name).map capitalized)

def lowerCamelCase (name : String) : String :=
  match words name with
  | [] => ""
  | first :: rest => Text.lower first ++ String.join (rest.map capitalized)

end Stencil.Bundled.Naming
