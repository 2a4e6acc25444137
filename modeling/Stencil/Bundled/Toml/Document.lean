import Stencil.Text.Pieces
import Stencil.Bundled.Toml.Scalar

/-!
# Stencil.Bundled.Toml.Document

Reading a TOML document.

* `basic?`, `literal?`, `longBasic?`, `longLiteral?` — the four kinds of quoted text.
* `value?` — a value, with arrays and inline tables.
* `document?` — the entries of a document; `none` if it is malformed or defines a key twice.

Readers take the characters from a position on and give what they read with the rest. Every reader
that calls another takes a number of steps; `document?` provides more than any text can use.
-/

namespace Stencil.Bundled.Toml

def isSpace (c : Char) : Bool := c == ' ' || c == '\t'

def isControl (c : Char) : Bool :=
  (c.toNat < 0x20 && c != '\t') || c.toNat == 0x7F

def isBare (c : Char) : Bool := c.isAlphanum || c == '_' || c == '-'

/-- Characters of unquoted scalars: all that do not end one. -/
def isWord (c : Char) : Bool := !"=,[]\x7b\x7d# \t\r\n".toList.contains c

def afterNewline? : List Char → Option (List Char)
  | '\n' :: rest => some rest
  | '\r' :: '\n' :: rest => some rest
  | _ => none

/-- The text after a comment, if one starts here. A comment holds no control characters. -/
def afterComment? (cs : List Char) : Option (List Char) :=
  match cs with
  | '#' :: rest =>
    let body := rest.takeWhile fun c => c != '\n' && c != '\r'
    if body.any isControl then none else some (rest.drop body.length)
  | cs => some cs

/-- The text of the next line, when nothing but a comment is left of this one. -/
def afterLine? (cs : List Char) : Option (List Char) := do
  let rest ← afterComment? (cs.dropWhile isSpace)
  if rest.isEmpty then some [] else afterNewline? rest

def character? (digits : List Char) : Option Char := do
  let n ← Text.ofDigits? 16 digits
  if h : n.isValidChar then some (Char.ofNatAux n h) else none

def escapes : List (Char × Char) :=
  [('b', '\x08'), ('t', '\t'), ('n', '\n'), ('f', '\x0c'), ('r', '\r'), ('e', '\x1b'), ('"', '"'),
    ('\\', '\\')]

def prepend (c : Char) (r : Option (List Char × List Char)) : Option (List Char × List Char) :=
  r.map fun (text, rest) => (c :: text, rest)

/-- Text in double quotes, from behind the first. -/
def basic? : List Char → Option (List Char × List Char)
  | [] => none
  | '"' :: rest => some ([], rest)
  | '\\' :: 'x' :: a :: b :: rest =>
    (character? [a, b]).bind fun ch => prepend ch (basic? rest)
  | '\\' :: 'u' :: a :: b :: c :: d :: rest =>
    (character? [a, b, c, d]).bind fun ch => prepend ch (basic? rest)
  | '\\' :: 'U' :: a :: b :: c :: d :: e :: f :: g :: h :: rest =>
    (character? [a, b, c, d, e, f, g, h]).bind fun ch => prepend ch (basic? rest)
  | '\\' :: c :: rest => (escapes.lookup c).bind fun ch => prepend ch (basic? rest)
  | c :: rest => if isControl c || c == '\\' then none else prepend c (basic? rest)

def literal? : List Char → Option (List Char × List Char)
  | [] => none
  | '\'' :: rest => some ([], rest)
  | c :: rest => if isControl c then none else prepend c (literal? rest)

/-- The text between three double quotes. Up to two quotes may stand before the closing three.
While `joining`, blanks and line ends are passed over. -/
def longBasic? (joining : Bool) : List Char → Option (List Char × List Char)
  | [] => none
  | '"' :: '"' :: '"' :: '"' :: '"' :: rest => some (['"', '"'], rest)
  | '"' :: '"' :: '"' :: '"' :: rest => some (['"'], rest)
  | '"' :: '"' :: '"' :: rest => some ([], rest)
  | '\\' :: 'x' :: a :: b :: rest =>
    (character? [a, b]).bind fun ch => prepend ch (longBasic? false rest)
  | '\\' :: 'u' :: a :: b :: c :: d :: rest =>
    (character? [a, b, c, d]).bind fun ch => prepend ch (longBasic? false rest)
  | '\\' :: 'U' :: a :: b :: c :: d :: e :: f :: g :: h :: rest =>
    (character? [a, b, c, d, e, f, g, h]).bind fun ch => prepend ch (longBasic? false rest)
  | '\\' :: c :: rest =>
    match escapes.lookup c with
    | some ch => prepend ch (longBasic? false rest)
    | none =>
      if (afterNewline? ((c :: rest).dropWhile isSpace)).isSome then longBasic? true (c :: rest)
      else none
  | '\r' :: '\n' :: rest =>
    if joining then longBasic? true rest else prepend '\r' (prepend '\n' (longBasic? false rest))
  | '\n' :: rest => if joining then longBasic? true rest else prepend '\n' (longBasic? false rest)
  | c :: rest =>
    if joining && isSpace c then longBasic? true rest
    else if isControl c || c == '\\' then none
    else prepend c (longBasic? false rest)

def longLiteral? : List Char → Option (List Char × List Char)
  | [] => none
  | '\'' :: '\'' :: '\'' :: '\'' :: '\'' :: rest => some (['\'', '\''], rest)
  | '\'' :: '\'' :: '\'' :: '\'' :: rest => some (['\''], rest)
  | '\'' :: '\'' :: '\'' :: rest => some ([], rest)
  | '\r' :: '\n' :: rest => prepend '\r' (prepend '\n' (longLiteral? rest))
  | '\n' :: rest => prepend '\n' (longLiteral? rest)
  | c :: rest => if isControl c then none else prepend c (longLiteral? rest)

/-- A line end right behind the opening quotes is not part of the text. -/
def dropFirstNewline (cs : List Char) : List Char :=
  (afterNewline? cs).getD cs

def simpleKey? : List Char → Option (String × List Char)
  | '"' :: rest => (basic? rest).map fun (key, rest) => (String.ofList key, rest)
  | '\'' :: rest => (literal? rest).map fun (key, rest) => (String.ofList key, rest)
  | cs =>
    let key := cs.takeWhile isBare
    if key.isEmpty then none else some (String.ofList key, cs.drop key.length)

/-- Simple keys joined by dots, with blanks around each. -/
def parts? : Nat → List Char → Option (List String × List Char)
  | 0, _ => none
  | steps + 1, cs => do
    let (first, cs) ← simpleKey? (cs.dropWhile isSpace)
    match cs.dropWhile isSpace with
    | '.' :: cs =>
      let (others, cs) ← parts? steps cs
      some (first :: others, cs)
    | cs => some ([first], cs)

/-- Arrays, inline tables and keys are nested to a limited depth. -/
def maxNesting : Nat := 80

def key? (steps : Nat) (cs : List Char) : Option (List String × List Char) := do
  let (key, cs) ← parts? steps cs
  if key.length ≤ maxNesting then some (key, cs) else none

/-- Blanks, line ends and comments. -/
def afterGap? : Nat → List Char → Option (List Char)
  | 0, _ => none
  | steps + 1, cs => do
    let rest ← afterComment? (cs.dropWhile isSpace)
    match afterNewline? rest with
    | some rest => afterGap? steps rest
    | none => some rest

/-- An unquoted scalar. A blank may stand between a date and a time. -/
def word? (cs : List Char) : Option (Value × List Char) :=
  let word := cs.takeWhile isWord
  let rest := cs.drop word.length
  match afterDate? word, rest with
  | some [], ' ' :: d :: _ =>
    if d.isDigit then
      let time := rest.tail.takeWhile isWord
      (ofWord? (word ++ ' ' :: time)).map (·, rest.drop (time.length + 1))
    else some (.moment, rest)
  | _, _ => (ofWord? word).map (·, rest)

mutual

/-- A value that may hold `room` levels of arrays and inline tables. -/
def value? : Nat → Nat → List Char → Option (Value × List Char)
  | 0, _, _ => none
  | steps + 1, room, cs =>
    match cs, room with
    | '"' :: '"' :: '"' :: rest, _ =>
      (longBasic? false (dropFirstNewline rest)).map fun (s, rest) =>
        (.text (String.ofList s), rest)
    | '"' :: rest, _ => (basic? rest).map fun (s, rest) => (.text (String.ofList s), rest)
    | '\'' :: '\'' :: '\'' :: rest, _ =>
      (longLiteral? (dropFirstNewline rest)).map fun (s, rest) => (.text (String.ofList s), rest)
    | '\'' :: rest, _ => (literal? rest).map fun (s, rest) => (.text (String.ofList s), rest)
    | '[' :: rest, room + 1 =>
      (items? steps room rest).map fun (items, rest) => (.array items, rest)
    | '\x7b' :: rest, room + 1 =>
      (pairs? steps room [] rest).map fun (entries, rest) => (.table .closed entries, rest)
    | cs, _ => word? cs

/-- The items of an array and its closing bracket; a comma may follow the last item. -/
def items? : Nat → Nat → List Char → Option (List Value × List Char)
  | 0, _, _ => none
  | steps + 1, room, cs => do
    match ← afterGap? (steps + 1) cs with
    | ']' :: rest => some ([], rest)
    | cs =>
      let (item, cs) ← value? steps room cs
      match ← afterGap? (steps + 1) cs with
      | ',' :: rest =>
        let (items, rest) ← items? steps room rest
        some (item :: items, rest)
      | ']' :: rest => some ([item], rest)
      | _ => none

/-- The pairs of an inline table and its closing brace; a comma may follow the last pair. Lines may
end around keys and values. -/
def pairs? : Nat → Nat → Entries → List Char → Option (Entries × List Char)
  | 0, _, _, _ => none
  | steps + 1, room, entries, cs => do
    match ← afterGap? (steps + 1) cs with
    | '\x7d' :: rest => some (entries, rest)
    | cs =>
      let (key, cs) ← key? (steps + 1) cs
      match ← afterGap? (steps + 1) cs with
      | '=' :: cs =>
        let (v, cs) ← value? steps room (← afterGap? (steps + 1) cs)
        let entries ← insertAt v key entries
        match ← afterGap? (steps + 1) cs with
        | ',' :: rest => pairs? steps room entries rest
        | '\x7d' :: rest => some (entries, rest)
        | _ => none
      | _ => none

end

/-- A key, an equals sign and a value. -/
def pair? (steps : Nat) (cs : List Char) : Option (List String × Value × List Char) := do
  let (key, cs) ← key? steps cs
  match cs with
  | '=' :: rest =>
    let (v, rest) ← value? steps maxNesting (rest.dropWhile isSpace)
    some (key, v, rest)
  | _ => none

/-- A header, plain or doubled, up to the end of its line. -/
def header? (steps : Nat) (entries : Entries) (cs : List Char) :
    Option (List String × Entries × List Char) := do
  match cs with
  | '[' :: '[' :: rest =>
    let (path, rest) ← key? steps rest
    match rest with
    | ']' :: ']' :: rest => some (path, ← appendTable path entries, ← afterLine? rest)
    | _ => none
  | '[' :: rest =>
    let (path, rest) ← key? steps rest
    match rest with
    | ']' :: rest => some (path, ← defineTable path entries, ← afterLine? rest)
    | _ => none
  | _ => none

/-- Lines below the header `path`. -/
def lines? : Nat → List String → Entries → List Char → Option Entries
  | 0, _, _, _ => none
  | steps + 1, path, entries, cs => do
    match ← afterGap? (steps + 1) cs with
    | [] => some entries
    | '[' :: rest =>
      let (path, entries, rest) ← header? (steps + 1) entries ('[' :: rest)
      lines? steps path entries rest
    | cs =>
      let (key, v, rest) ← pair? (steps + 1) cs
      let entries ← openTable (insertAt v key) path entries
      let rest ← afterLine? rest
      lines? steps path entries rest

/-- A byte order mark may stand at the start. -/
def document? (source : String) : Option Entries :=
  let cs := Text.dropMark ['\ufeff'] source.toList
  lines? (2 * cs.length + 2) [] [] cs

end Stencil.Bundled.Toml
