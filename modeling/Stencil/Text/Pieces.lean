/-!
# Stencil.Text.Pieces

Cutting a text at marks and putting pieces together.

* `splitOn`      — the pieces between the occurrences of a character; one more than there are marks.
* `cut`          — the text before and after the first occurrence of a character.
* `afterLast`    — what follows the last occurrence of a character.
* `dropMark`     — a text without one leading copy of a mark.
* `hasPart`      — whether one text occurs inside another.
* `replaceFirst`, `replaceAll` — textual replacement from left to right.
-/

namespace Stencil.Text

def splitOn (mark : Char) : List Char → List (List Char)
  | [] => [[]]
  | c :: rest =>
    if c = mark then [] :: splitOn mark rest
    else
      match splitOn mark rest with
      | [] => [[c]]
      | piece :: pieces => (c :: piece) :: pieces

/-- `none` if the mark does not occur. -/
def cut (mark : Char) : List Char → Option (List Char × List Char)
  | [] => none
  | c :: rest =>
    if c = mark then some ([], rest)
    else (cut mark rest).map fun (before, after) => (c :: before, after)

/-- The whole text if the mark does not occur. -/
def afterLast (mark : Char) (cs : List Char) : List Char :=
  (splitOn mark cs).getLastD cs

def dropMark (mark cs : List Char) : List Char :=
  if mark.isPrefixOf cs then cs.drop mark.length else cs

def hasPart (part : List Char) : List Char → Bool
  | [] => part.isEmpty
  | c :: rest => part.isPrefixOf (c :: rest) || hasPart part rest

/-- The inserted text is not searched again. -/
def replaceFirst (part new : List Char) : List Char → List Char
  | [] => if part.isEmpty then new else []
  | c :: rest =>
    if part.isPrefixOf (c :: rest) then new ++ (c :: rest).drop part.length
    else c :: replaceFirst part new rest

/-- Replacement of a non-empty part; `skip` characters belong to an occurrence already replaced. -/
def replaceFrom (part new : List Char) : Nat → List Char → List Char
  | _, [] => []
  | skip + 1, _ :: rest => replaceFrom part new skip rest
  | 0, c :: rest =>
    if part.isPrefixOf (c :: rest) then new ++ replaceFrom part new (part.length - 1) rest
    else c :: replaceFrom part new 0 rest

/-- Every occurrence, from left to right and without overlap. The empty part occurs before every
character and at the end. -/
def replaceAll (part new cs : List Char) : List Char :=
  if part.isEmpty then new ++ cs.flatMap (· :: new) else replaceFrom part new 0 cs

end Stencil.Text
