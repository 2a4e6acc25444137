import Stencil.Bundled.Template.Value
import Stencil.Text.Blank
import Stencil.Text.Digits

/-!
# Stencil.Bundled.Template.Token

The tokens of a template. Text stands between marks: doubled braces hold expressions, braces with a
percent sign hold statements, braces with a number sign hold comments. A minus sign inside a mark
takes away the blanks next to it.

* `Token`      — tokens, each with the line on which it starts.
* `unescaped?` — the characters that a quoted text stands for.
* `tokens`     — the tokens of a source, ended by `finish`, or by `broken` where there is none.
-/

namespace Stencil.Bundled.Template

inductive Token where
  | data (s : String)
  | valueStart
  | valueEnd
  | tagStart
  | tagEnd
  | name (s : String)
  | text (s : String)
  | number (n : Int)
  | sign (s : String)
  | broken
  /-- A quoted text whose escapes stand for no characters. -/
  | illEscaped
  | finish
deriving DecidableEq, Repr

structure Lexeme where
  token : Token
  line : Nat
deriving DecidableEq, Repr

inductive Mark where
  | value
  | tag
  | comment
deriving DecidableEq

/-- The text up to the next mark, and the mark with what follows it. -/
def untilMark : List Char → List Char × Option (Mark × List Char)
  | [] => ([], none)
  | '\x7b' :: '\x7b' :: rest => ([], some (.value, rest))
  | '\x7b' :: '%' :: rest => ([], some (.tag, rest))
  | '\x7b' :: '#' :: rest => ([], some (.comment, rest))
  | c :: rest =>
    let (before, mark) := untilMark rest
    (c :: before, mark)

def newlines (cs : List Char) : Nat :=
  cs.count '\n'

/-- The text up to the end of a comment, and what follows. -/
def untilCommentEnd : List Char → Option (List Char × List Char)
  | [] => none
  | '#' :: '\x7d' :: rest => some ([], rest)
  | c :: rest => (untilCommentEnd rest).map fun (before, after) => (c :: before, after)

/-- A number of 16 bits from four characters, of which the first may be a plus sign. -/
def hexQuad? (cs : List Char) : Option Nat :=
  Text.ofDigits? 16 (Text.dropMark ['+'] cs)

def plainEscapes : List (Char × Char) :=
  [('n', '\n'), ('r', '\r'), ('t', '\t'), ('b', '\x08'), ('f', '\x0c'), ('\\', '\\'), ('/', '/'),
    ('"', '"'), ('\'', '\'')]

/-- The content of a quoted text from behind the opening quote, escapes included, and what follows
the closing one. -/
def untilQuote (quote : Char) : List Char → Option (List Char × List Char)
  | [] => none
  | '\\' :: c :: rest =>
    (untilQuote quote rest).map fun (inside, rest) => ('\\' :: c :: inside, rest)
  | c :: rest =>
    if c = quote then some ([], rest)
    else (untilQuote quote rest).map fun (inside, rest) => (c :: inside, rest)

/-- The characters that a text with escapes stands for. An escape that means nothing else means
itself. A character beyond 16 bits is escaped as two halves, and no half may stand alone. -/
def unescaped? : List Char → Option (List Char)
  | [] => some []
  | '\\' :: 'u' :: a :: b :: c :: d :: rest => do
    let n ← hexQuad? [a, b, c, d]
    if n < 0xD800 || 0xDFFF < n then (unescaped? rest).map (Char.ofNat n :: ·)
    else
      match rest with
      | '\\' :: 'u' :: a :: b :: c :: d :: rest =>
        let low ← hexQuad? [a, b, c, d]
        if n < 0xDC00 && 0xDC00 ≤ low && low ≤ 0xDFFF then
          let code := 0x10000 + (n - 0xD800) * 0x400 + (low - 0xDC00)
          (unescaped? rest).map (Char.ofNat code :: ·)
        else none
      | _ => none
  | '\\' :: 'u' :: _ => none
  | '\\' :: c :: rest =>
    let here :=
      match plainEscapes.lookup c with
      | some c => [c]
      | none => ['\\', c]
    (unescaped? rest).map (here ++ ·)
  | c :: rest => (unescaped? rest).map (c :: ·)

/-- Inside marks only these blanks are passed over. -/
def isGap (c : Char) : Bool :=
  c == ' ' || c == '\t' || c == '\n' || c == '\r' || c == '\x0c'

/-- Numbers have at most 128 bits. -/
def maxNumber : Nat := 340282366920938463463374607431768211455

/-- The base of a number, and what stands behind the prefix that tells it. -/
def numberBase : List Char → Nat × List Char
  | '0' :: 'b' :: ds | '0' :: 'B' :: ds => (2, ds)
  | '0' :: 'o' :: ds | '0' :: 'O' :: ds => (8, ds)
  | '0' :: 'x' :: ds | '0' :: 'X' :: ds => (16, ds)
  | ds => (10, ds)

/-- A whole number and what follows it. Underscores may stand among its digits, but not behind
them. With a decimal point, an exponent or digits that its base does not have it is none. -/
def wholeNumber? (cs : List Char) : Option Nat × List Char :=
  let (base, ds) := numberBase cs
  let (front, rest) := ds.span fun c => Text.isDigitOf (max base 10) c || c == '_'
  let isPartial := base == 10 && rest.head?.any fun c => c == '.' || c == 'e' || c == 'E'
  if isPartial || front.getLast? == some '_' then (none, rest)
  else ((Text.ofDigits? base (front.filter (· != '_'))).filter (· ≤ maxNumber), rest)

def isNameStart (c : Char) : Bool := c.isAlpha || c == '_'

def isNameChar (c : Char) : Bool := c.isAlphanum || c == '_'

def longSigns : List String := ["==", "!=", ">=", "<=", "//", "**"]

def shortSigns : List Char := "<>+-*/%!.,:~|=()[]\x7b\x7d".toList

/-- The next token of an expression or statement, and what follows it. -/
def nextToken (cs : List Char) : Token × List Char :=
  match cs with
  | [] => (.broken, [])
  | c :: rest =>
    if c = '"' || c = '\'' then
      match untilQuote c rest with
      | none => (.broken, [])
      | some (inside, rest) =>
        match unescaped? inside with
        | some text => (.text (String.ofList text), rest)
        | none => (.illEscaped, rest)
    else if isNameStart c then
      let name := cs.takeWhile isNameChar
      (.name (String.ofList name), cs.drop name.length)
    else if c.isDigit then
      match wholeNumber? cs with
      | (some n, rest) => (.number n, rest)
      | (none, rest) => (.broken, rest)
    else if longSigns.contains (String.ofList (cs.take 2)) then
      (.sign (String.ofList (cs.take 2)), cs.drop 2)
    else if shortSigns.contains c then (.sign (String.ofList [c]), rest)
    else (.broken, cs)

/-- What follows the end of a mark, and whether the blanks behind it are to go. -/
def markEnd? : Mark → List Char → Option (Bool × List Char)
  | .value, '-' :: '\x7d' :: '\x7d' :: rest => some (true, rest)
  | .value, '\x7d' :: '\x7d' :: rest => some (false, rest)
  | .tag, '-' :: '%' :: '\x7d' :: rest => some (true, rest)
  | .tag, '+' :: '%' :: '\x7d' :: rest => some (false, rest)
  | .tag, '%' :: '\x7d' :: rest => some (false, rest)
  | _, _ => none

def Mark.start : Mark → Token
  | tag => .tagStart
  | _ => .valueStart

def Mark.finish : Mark → Token
  | tag => .tagEnd
  | _ => .valueEnd

/-- Data, unless there is none. -/
def dataLexeme (cs : List Char) (line : Nat) : List Lexeme :=
  if cs.isEmpty then [] else [⟨.data (String.ofList cs), line⟩]

/-- Tokens from a position on. `inside` is the mark that is open there. Each step takes at least one
character, so as many steps as characters are enough. What is broken because something does not end
is told with the last line. -/
def lexemes : Nat → Option Mark → Nat → List Char → List Lexeme
  | 0, _, _, _ => []
  | _, _, _, [] => []
  | steps + 1, none, line, cs =>
    match untilMark cs with
    | (before, none) => dataLexeme before line
    | (before, some (mark, rest)) =>
      let line' := line + newlines before
      let kept := if rest.head? == some '-' then Text.trimRight before else before
      let rest := if rest.head? == some '-' || rest.head? == some '+' then rest.tail else rest
      match mark with
      | .comment =>
        match untilCommentEnd rest with
        | none => dataLexeme kept line ++ [⟨.broken, line' + newlines rest⟩]
        | some (comment, after) =>
          let trimmed := if comment.getLast? == some '-' then Text.trimLeft after else after
          let passed := newlines comment + newlines (after.take (after.length - trimmed.length))
          dataLexeme kept line ++ lexemes steps none (line' + passed) trimmed
      | mark => dataLexeme kept line ++ ⟨mark.start, line'⟩ :: lexemes steps (some mark) line' rest
  | steps + 1, some mark, line, cs =>
    let here := cs.dropWhile isGap
    let line' := line + newlines (cs.take (cs.length - here.length))
    if here.isEmpty then []
    else
      match markEnd? mark here with
      | some (trims, rest) =>
        let trimmed := if trims then Text.trimLeft rest else rest
        let passed := newlines (rest.take (rest.length - trimmed.length))
        ⟨mark.finish, line'⟩ :: lexemes steps none (line' + passed) trimmed
      | none =>
        let (token, rest) := nextToken here
        let passed := newlines (here.take (here.length - rest.length))
        if token = .broken then [⟨.broken, line' + passed⟩]
        else ⟨token, line'⟩ :: lexemes steps (some mark) (line' + passed) rest

/-- The end counts to the line of the last token. -/
def tokens (source : String) : List Lexeme :=
  let found := lexemes (source.length + 1) none 1 source.toList
  found ++ [⟨.finish, (found.getLast?.map (·.line)).getD 1⟩]

end Stencil.Bundled.Template
