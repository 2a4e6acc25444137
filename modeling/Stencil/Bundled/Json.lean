import Stencil.Data

/-!
# Stencil.Bundled.Json

Values as JSON text, one element per line.

* `jsonText`   — a text between double quotes; quotes, backslashes and controls are escaped.
* `json`       — a value at a depth; every level is indented by two blanks.
-/

namespace Stencil.Bundled.Json

/-- Four hexadecimal digits. -/
def hexQuad (n : Nat) : List Char :=
  let digits := Nat.toDigits 16 n
  List.replicate (4 - digits.length) '0' ++ digits

def jsonEscape (c : Char) : List Char :=
  if c = '"' then ['\\', '"']
  else if c = '\\' then ['\\', '\\']
  else if c = '\n' then ['\\', 'n']
  else if c = '\r' then ['\\', 'r']
  else if c = '\t' then ['\\', 't']
  else if c = '\x08' then ['\\', 'b']
  else if c = '\x0c' then ['\\', 'f']
  else if c.toNat < 0x20 then ['\\', 'u'] ++ hexQuad c.toNat
  else [c]

def jsonText (s : String) : String :=
  String.ofList ('"' :: s.toList.flatMap jsonEscape ++ ['"'])

def indented (depth : Nat) (s : String) : String :=
  String.ofList (List.replicate (2 * depth) ' ') ++ s

/-- Elements between brackets. Without elements the brackets stand side by side. -/
def jsonBlock (depth : Nat) (opening closing : String) (elements : List String) : String :=
  if elements.isEmpty then opening ++ closing
  else
    opening ++ "\n" ++ ",\n".intercalate (elements.map (indented (depth + 1))) ++ "\n" ++
      indented depth closing

mutual

def json (depth : Nat) : Data → String
  | .nothing => "null"
  | .boolean b => if b then "true" else "false"
  | .text s => jsonText s
  | .list items => jsonBlock depth "[" "]" (jsonItems (depth + 1) items)
  | .record fields => jsonBlock depth "\x7b" "\x7d" (jsonFields (depth + 1) fields)

def jsonItems (depth : Nat) : List Data → List String
  | [] => []
  | v :: rest => json depth v :: jsonItems depth rest

def jsonFields (depth : Nat) : List (String × Data) → List String
  | [] => []
  | (name, v) :: rest => (jsonText name ++ ": " ++ json depth v) :: jsonFields depth rest

end

end Stencil.Bundled.Json
