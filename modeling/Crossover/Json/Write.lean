import Crossover.Number.Notation

/-!
# Writing JSON

Texts are compact. A string escapes the quote, the backslash and the controls below the space,
five of which have a letter; numbers use the JSON notation, and a number that is not finite is
written as null.
-/

namespace Crossover.Json

def hexDigit (n : Nat) : Char := Nat.digitChar n

def escapedChar (c : Char) : List Char :=
  if c = '"' then ['\\', '"']
  else if c = '\\' then ['\\', '\\']
  else if c = '\x08' then ['\\', 'b']
  else if c = '\x0c' then ['\\', 'f']
  else if c = '\n' then ['\\', 'n']
  else if c = '\r' then ['\\', 'r']
  else if c = '\t' then ['\\', 't']
  else if c.toNat < 0x20 then
    ['\\', 'u', '0', '0', hexDigit (c.toNat / 16), hexDigit (c.toNat % 16)]
  else [c]

def stringText (s : String) : List Char :=
  '"' :: s.toList.flatMap escapedChar ++ ['"']

def floatText (x : Float) : List Char :=
  if Binary64.isFinite x.toBits then NumberNotation.json.chars x else ['n', 'u', 'l', 'l']

def commaSeparated : List (List Char) → List Char
  | [] => []
  | [t] => t
  | t :: rest => t ++ ',' :: commaSeparated rest

def listText (items : List (List Char)) : List Char :=
  '[' :: commaSeparated items ++ [']']

def objectText (fields : List (String × List Char)) : List Char :=
  '\x7b' :: commaSeparated (fields.map fun f => stringText f.1 ++ ':' :: f.2) ++ ['\x7d']

end Crossover.Json
