/-!
# Base64

Bytes as text over sixty-four characters: three bytes give four characters, and one or two bytes
at the end are filled up with `=`.
-/

namespace Crossover.Base64

def alphabet : List Char :=
  "ABCDEFGHIJKLMNOPQRSTUVWXYZabcdefghijklmnopqrstuvwxyz0123456789+/".toList

def digit (n : Nat) : Char := alphabet.getD (n % 64) '='

def encode : List Nat → List Char
  | [] => []
  | [a] => [digit (a / 4), digit (a * 16), '=', '=']
  | [a, b] => [digit (a / 4), digit (a * 16 + b / 16), digit (b * 4), '=']
  | a :: b :: c :: rest =>
    digit (a / 4) :: digit (a * 16 + b / 16) :: digit (b * 4 + c / 64) :: digit c :: encode rest

def ofText (s : String) : String :=
  String.ofList (encode (s.toUTF8.toList.map UInt8.toNat))

end Crossover.Base64
