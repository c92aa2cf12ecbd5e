import Crossover.Number.Reading
import Crossover.Text.Blank

/-!
# Intervals

The length of a bar: an amount and a unit of seconds, minutes, hours, days or weeks, such as
`5m`, with blanks allowed around it. The amount is positive and the length fits a 64-bit word.
-/

namespace Crossover.Interval

def unitSeconds? (c : Char) : Option Nat :=
  match c with
  | 's' => some 1
  | 'm' => some 60
  | 'h' => some 3600
  | 'd' => some 86400
  | 'w' => some 604800
  | _ => none

def trimmed? (cs : List Char) : Option Nat := do
  let unit ← cs.getLast? >>= unitSeconds?
  let amount ← NumberText.natural? NumberText.largestWord cs.dropLast
  if amount = 0 ∨ NumberText.largestWord < amount * unit then none
  else some (amount * unit)

def seconds? (text : String) : Option Nat :=
  trimmed? (Text.trim text.toList)

end Crossover.Interval
