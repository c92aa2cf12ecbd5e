/-!
# Blank characters

The characters with the white space property, and the text between them. The property holds of
twenty-five characters, among them the no-break spaces and the line and paragraph separators.
-/

namespace Crossover.Text

def blankRanges : List (Nat × Nat) :=
  [(0x9, 0xd), (0x20, 0x20), (0x85, 0x85), (0xa0, 0xa0), (0x1680, 0x1680), (0x2000, 0x200a),
    (0x2028, 0x2029), (0x202f, 0x202f), (0x205f, 0x205f), (0x3000, 0x3000)]

def isBlank (c : Char) : Bool :=
  blankRanges.any fun r => r.1 ≤ c.toNat && c.toNat ≤ r.2

def trimStart (cs : List Char) : List Char :=
  cs.dropWhile isBlank

def trim (cs : List Char) : List Char :=
  (trimStart (trimStart cs).reverse).reverse

end Crossover.Text
