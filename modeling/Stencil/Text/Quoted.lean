import Stencil.Text.UnseenTable

/-!
# Stencil.Text.Quoted

A text between double quotes in which every character can be seen: quotes, backslashes and line
controls are escaped by a letter, other unseen characters by their code point.
-/

namespace Stencil.Text

def codePointEscape (c : Char) : List Char :=
  ['\\', 'u', '\x7b'] ++ Nat.toDigits 16 c.toNat ++ ['\x7d']

def escapeSeen (c : Char) : List Char :=
  if c = '"' then ['\\', '"']
  else if c = '\\' then ['\\', '\\']
  else if c = '\n' then ['\\', 'n']
  else if c = '\r' then ['\\', 'r']
  else if c = '\t' then ['\\', 't']
  else if c.toNat = 0 then ['\\', '0']
  else if c.toNat < 0x20 || isUnseen c then codePointEscape c
  else [c]

def quoted (s : String) : String :=
  String.ofList ('"' :: s.toList.flatMap escapeSeen ++ ['"'])

end Stencil.Text
