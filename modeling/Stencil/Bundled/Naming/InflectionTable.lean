import Stencil.Bundled.Naming.Ending

/-!
# Stencil.Bundled.Naming.InflectionTable

How English nouns form the other number.

* `irregular`       — singular and plural of words that follow no rule.
* `pluralRules`, `singularRules` — endings and what replaces them; later rules come first.
* `unchangedEndings`, `unchangedWords` — words with one form for both.
-/

namespace Stencil.Bundled.Naming

open Ending

/-- A replacement refers to the groups of its ending by `$0`, `$1`, …. -/
structure Rule where
  ending : Ending
  replacement : String

def irregular : List (String × String) := [
  ("I", "we"), ("me", "us"), ("he", "they"), ("she", "they"), ("them", "them"),
  ("myself", "ourselves"), ("yourself", "yourselves"), ("itself", "themselves"),
  ("herself", "themselves"), ("himself", "themselves"), ("themself", "themselves"), ("is", "are"),
  ("was", "were"), ("has", "have"), ("this", "these"), ("that", "those"), ("my", "our"),
  ("its", "their"), ("his", "their"), ("her", "their"), ("echo", "echoes"), ("dingo", "dingoes"),
  ("volcano", "volcanoes"), ("tornado", "tornadoes"), ("torpedo", "torpedoes"),
  ("genus", "genera"), ("viscus", "viscera"), ("stigma", "stigmata"), ("stoma", "stomata"),
  ("dogma", "dogmata"), ("lemma", "lemmata"), ("schema", "schemata"), ("anathema", "anathemata"),
  ("ox", "oxen"), ("axe", "axes"), ("die", "dice"), ("yes", "yeses"), ("foot", "feet"),
  ("eave", "eaves"), ("goose", "geese"), ("tooth", "teeth"), ("quiz", "quizzes"),
  ("human", "humans"), ("proof", "proofs"), ("carve", "carves"), ("valve", "valves"),
  ("looey", "looies"), ("thief", "thieves"), ("groove", "grooves"), ("pickaxe", "pickaxes"),
  ("passerby", "passersby"), ("canvas", "canvases")]

def pluralRules : List Rule := [
  ⟨opt (text "s"), "s"⟩,
  ⟨.one .beyondAscii, "$0"⟩,
  ⟨group (besides "aeiou" ++ text "ese"), "$1"⟩,
  ⟨group (anyOf "ax test") ++ text "is", "$1es"⟩,
  ⟨group (firstOf [text "alias", besides "aou" ++ text "us", text "t" ++ among "lm" ++ text "as",
      anyOf "gas ris"]), "$1es"⟩,
  ⟨group (text "e" ++ among "mn" ++ text "u") ++ opt (text "s"), "$1s"⟩,
  ⟨group (firstOf [besides "l" ++ text "ias", among "aeiou" ++ text "las",
      among "ejzr" ++ text "as", among "iu" ++ text "am"]), "$1"⟩,
  ⟨group (anyOf "alumn syllab vir radi nucle fung cact stimul termin bacill foc uter loc strat") ++
      anyOf "us i", "$1i"⟩,
  ⟨group (anyOf "alumn alg vertebr") ++ anyOf "a ae", "$1ae"⟩,
  ⟨group (anyOf "seraph cherub") ++ opt (text "im"), "$1im"⟩,
  ⟨group (anyOf "her at gr") ++ text "o", "$1oes"⟩,
  ⟨group (anyOf ("agend addend millenni dat extrem bacteri desiderat strat candelabr errat ov " ++
      "symposi curricul automat quor")) ++ anyOf "a um", "$1a"⟩,
  ⟨group (anyOf ("apheli hyperbat periheli asyndet noumen phenomen criteri organ prolegomen " ++
      "hedr automat")) ++ anyOf "a on", "$1a"⟩,
  ⟨text "sis", "ses"⟩,
  ⟨firstOf [group (anyOf "kni wi li") ++ text "fe",
      group (anyOf "ar l ea eo oa hoo") ++ text "f"], "$1$2ves"⟩,
  ⟨group (firstOf [besides "aeiouy", text "qu"]) ++ text "y", "$1ies"⟩,
  ⟨group (besides "ch" ++ among "ieo" ++ among "ln") ++ text "ey", "$1ies"⟩,
  ⟨group (anyOf "x ch ss sh zz"), "$1es"⟩,
  ⟨group (anyOf "matr cod mur sil vert ind append") ++ anyOf "ix ex", "$1ices"⟩,
  ⟨edge ++ group (firstOf [opt (text "tit") ++ text "m", text "l"]) ++ anyOf "ice ouse", "$1ice"⟩,
  ⟨group (text "pe") ++ anyOf "rson ople", "$1ople"⟩,
  ⟨group (text "child") ++ opt (text "ren"), "$1ren"⟩,
  ⟨text "eaux", "$0"⟩,
  ⟨text "m" ++ among "ae" ++ text "n", "men"⟩,
  ⟨wordStart ++ text "thou", "you"⟩]

def singularRules : List Rule := [
  ⟨text "s", ""⟩,
  ⟨group (text "ss"), "$1"⟩,
  ⟨group (firstOf [anyOf "wi kni", firstOf [anyOf "after half high low mid non night",
      .one .nonWord, wordStart] ++ text "li"]) ++ text "ves", "$1fe"⟩,
  ⟨group (firstOf [text "ar", firstOf [text "wo", among "ae"] ++ text "l",
      among "eo" ++ among "ao"]) ++ text "ves", "$1f"⟩,
  ⟨text "ies", "y"⟩,
  ⟨group (anyOf "dg ss ois lk ok wn mb th ch ec oal is ck ix sser ts wb") ++ text "ies", "$1ie"⟩,
  ⟨edge ++ group (firstOf [text "l", opt (anyOf "neck cross hog aun") ++ text "t",
      anyOf "coll faer food gen goon group hipp junk vegg", opt (text "pork") ++ text "p",
      anyOf "charl calor cut"]) ++ text "ies", "$1ie"⟩,
  ⟨edge ++ group (anyOf "mon smil") ++ text "ies", "$1ey"⟩,
  ⟨edge ++ group (firstOf [opt (text "tit") ++ text "m", text "l"]) ++ text "ice", "$1ouse"⟩,
  ⟨group (anyOf "seraph cherub") ++ text "im", "$1"⟩,
  ⟨group (firstOf [anyOf "x ch ss sh zz tto go cho alias", besides "aou" ++ text "us",
      text "t" ++ among "lm" ++ text "as", text "gas", anyOf "her at gr" ++ text "o",
      among "aeiou" ++ text "ris"]) ++ opt (text "es"), "$1"⟩,
  ⟨group (anyOf "analy diagno parenthe progno synop the empha cri ne") ++ anyOf "sis ses",
      "$1sis"⟩,
  ⟨group (firstOf [anyOf "movie twelve abuse", text "e" ++ among "mn" ++ text "u"]) ++
      text "s", "$1"⟩,
  ⟨group (text "test") ++ anyOf "is es", "$1is"⟩,
  ⟨group (anyOf "alumn syllab vir radi nucle fung cact stimul termin bacill foc uter loc strat") ++
      anyOf "us i", "$1us"⟩,
  ⟨group (anyOf ("agend addend millenni dat extrem bacteri desiderat strat candelabr errat ov " ++
      "symposi curricul quor")) ++ text "a", "$1um"⟩,
  ⟨group (anyOf ("apheli hyperbat periheli asyndet noumen phenomen criteri organ prolegomen " ++
      "hedr automat")) ++ text "a", "$1on"⟩,
  ⟨group (anyOf "alumn alg vertebr") ++ text "ae", "$1a"⟩,
  ⟨group (anyOf "cod mur sil vert ind") ++ text "ices", "$1ex"⟩,
  ⟨group (anyOf "matr append") ++ text "ices", "$1ix"⟩,
  ⟨group (text "pe") ++ group (anyOf "rson ople"), "$1rson"⟩,
  ⟨group (text "child") ++ text "ren", "$1"⟩,
  ⟨group (text "eau") ++ opt (text "x"), "$1"⟩,
  ⟨text "men", "man"⟩]

def unchangedEndings : List Ending := [
  text "pok" ++ among "eé" ++ text "mon", besides "aeiou" ++ text "ese", text "deer", text "fish",
  text "measles", text "o" ++ among "iu" ++ text "s", text "pox", text "sheep"]

def unchangedWords : List String := [
  "adulthood", "advice", "agenda", "aid", "aircraft", "alcohol", "ammo", "analytics", "anime",
  "athletics", "audio", "bison", "blood", "bream", "buffalo", "butter", "carp", "cash", "chassis",
  "chess", "clothing", "cod", "commerce", "cooperation", "corps", "debris", "diabetes",
  "digestion", "elk", "energy", "equipment", "excretion", "expertise", "firmware", "flounder",
  "fun", "gallows", "garbage", "graffiti", "hardware", "headquarters", "health", "herpes",
  "highjinks", "homework", "housework", "information", "jeans", "justice", "kudos", "labour",
  "literature", "machinery", "mackerel", "mail", "media", "mews", "moose", "music", "mud",
  "manga", "news", "only", "personnel", "pike", "plankton", "pliers", "police", "pollution",
  "premises", "rain", "research", "rice", "salmon", "scissors", "series", "sewage", "shambles",
  "shrimp", "software", "staff", "swine", "tennis", "traffic", "transportation", "trout", "tuna",
  "wealth", "welfare", "whiting", "wildebeest", "wildlife", "you"]

end Stencil.Bundled.Naming
