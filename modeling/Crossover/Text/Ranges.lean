/-!
# Ranges of characters

A property of characters is given by the ranges of code points that have it, in increasing
order.
-/

namespace Crossover.Text

abbrev Ranges := Array (Nat × Nat)

def Ranges.holds (rs : Ranges) (c : Char) : Bool :=
  rs.any fun r => r.1 ≤ c.toNat && c.toNat ≤ r.2

end Crossover.Text
