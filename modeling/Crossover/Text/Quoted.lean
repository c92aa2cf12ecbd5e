import Crossover.Text.Visible

/-!
# Quoted text

Messages show user text between double quotes, with escapes for the quote, the backslash, the
four controls that have a letter, and every character that cannot be seen on its own, which is
written as its code point. A single quote stays as it is.
-/

namespace Crossover.Text

def codePoint (c : Char) : List Char :=
  ['\\', 'u', '\x7b'] ++ Nat.toDigits 16 c.toNat ++ ['\x7d']

def quotedChar (c : Char) : List Char :=
  if c = '\x00' then ['\\', '0']
  else if c = '\t' then ['\\', 't']
  else if c = '\n' then ['\\', 'n']
  else if c = '\r' then ['\\', 'r']
  else if c = '"' then ['\\', '"']
  else if c = '\\' then ['\\', '\\']
  else if isVisible c then [c]
  else codePoint c

def quoted (s : String) : String :=
  String.ofList ('"' :: s.toList.flatMap quotedChar ++ ['"'])

end Crossover.Text
