import Stencil.Text.Pieces
import Stencil.Text.WordTable

/-!
# Stencil.Bundled.Naming.Ending

Patterns for the end of a word, without regard to case.

* `Ending`        — what the last part of a word looks like.
* `Ending.spots`  — every way to read a pattern from a position on, the preferred one first.
* `Ending.find?`  — the leftmost reading that reaches the end of the word.
-/

namespace Stencil.Bundled.Naming

/-- Letters of either case stand for each other, and so do the two signs that share the small
letters k and s. The patterns hold no letters but those of ASCII and é. -/
def folded (c : Char) : Char :=
  if c = '\u017f' then 's'
  else if c = '\u212a' then 'k'
  else if c = 'É' then 'é'
  else c.toLower

inductive CharSet where
  | among (letters : String)
  | besides (letters : String)
  | beyondAscii
  | nonWord

def CharSet.holds (c : Char) : CharSet → Bool
  | among letters => letters.toList.contains (folded c)
  | besides letters => !letters.toList.contains (folded c)
  | beyondAscii => (folded c).toNat > 127
  | nonWord => !Text.isWordChar c

inductive Ending where
  | nothing
  | letter (c : Char)
  | one (set : CharSet)
  | seq (a b : Ending)
  | either (a b : Ending)
  | group (a : Ending)
  | wordStart
  | edge

namespace Ending

instance : Append Ending := ⟨seq⟩

def ofChars (cs : List Char) : Ending :=
  cs.foldr (fun c e => .letter c ++ e) .nothing

def text (s : String) : Ending :=
  ofChars s.toList

def among (letters : String) : Ending :=
  .one (.among letters)

def besides (letters : String) : Ending :=
  .one (.besides letters)

def firstOf : List Ending → Ending
  | [] => .nothing
  | [e] => e
  | e :: rest => .either e (firstOf rest)

/-- One of several texts, written with blanks between them. -/
def anyOf (texts : String) : Ending :=
  firstOf ((Text.splitOn ' ' texts.toList).map ofChars)

def opt (e : Ending) : Ending :=
  .either e .nothing

/-- A position in a word, nearest characters first on both sides, and the groups read so far. -/
structure Spot where
  before : List Char
  after : List Char
  groups : List String := []

def Spot.step (s : Spot) (ok : Char → Bool) : List Spot :=
  match s.after with
  | [] => []
  | c :: rest => if ok c then [{ s with before := c :: s.before, after := rest }] else []

/-- The text read between two positions. -/
def Spot.upTo (s t : Spot) : String :=
  String.ofList (s.after.take (s.after.length - t.after.length))

/-- A word character on exactly one side. -/
def Spot.isEdge (s : Spot) : Bool :=
  s.before.head?.any Text.isWordChar != s.after.head?.any Text.isWordChar

def spots : Ending → Spot → List Spot
  | nothing, s => [s]
  | letter c, s => s.step (folded · == c)
  | one set, s => s.step (set.holds ·)
  | seq a b, s => (a.spots s).flatMap b.spots
  | either a b, s => a.spots s ++ b.spots s
  | group a, s => (a.spots s).map fun t => { t with groups := t.groups ++ [s.upTo t] }
  | wordStart, s => if s.before.isEmpty then [s] else []
  | edge, s => if s.isEdge then [s] else []

/-- What stands before the ending, and the groups: first the ending itself, then those that took
part in reading it. -/
def findFrom? (e : Ending) (before : List Char) : List Char → Option (String × List String)
  | [] => read? []
  | c :: rest =>
    match read? (c :: rest) with
    | some found => some found
    | none => e.findFrom? (c :: before) rest
where
  read? (after : List Char) : Option (String × List String) :=
    ((e.spots ⟨before, after, []⟩).find? (·.after.isEmpty)).map fun t =>
      (String.ofList before.reverse, String.ofList after :: t.groups)

def find? (e : Ending) (word : String) : Option (String × List String) :=
  e.findFrom? [] word.toList

end Ending

end Stencil.Bundled.Naming
