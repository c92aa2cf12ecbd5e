import Crossover.Number.Binary64

/-!
# Shortest decimals

A decimal `digits * 10 ^ scale` reads back as a binary64 word when it lies in the interval of
numbers that round to the word; the ends belong to the interval exactly when the fraction is
even. `shortest` tries 1, 2, … 17 digits, looks at the two points of that decimal grid on
either side of the value, and takes the first that reads back, the nearer one if both do. A
point of a grid lies in the interval only if one of the two neighbours of the value does, so no
shorter decimal reads back.
-/

namespace Crossover

/-- The number `digits * 10 ^ scale`. -/
structure Decimal where
  digits : Nat
  scale : Int
deriving DecidableEq, Repr

namespace Decimal

/-- Which neighbour is written when the value lies half way between two. -/
inductive Tie
  | even
  | up
deriving DecidableEq, Repr

/-- A positive rational as a quotient of naturals. -/
structure Quotient where
  num : Nat
  den : Nat

namespace Quotient

/-- `m * b ^ e`, where `e` may be negative. -/
def scaled (m b : Nat) (e : Int) : Quotient :=
  if 0 ≤ e then ⟨m * Nat.pow b e.toNat, 1⟩ else ⟨m, Nat.pow b (-e).toNat⟩

def less (x y : Quotient) : Bool :=
  x.num * y.den < y.num * x.den

def atMost (x y : Quotient) : Bool :=
  x.num * y.den ≤ y.num * x.den

def shifted (x : Quotient) (e : Int) : Quotient :=
  if 0 ≤ e then ⟨x.num, x.den * Nat.pow 10 e.toNat⟩ else ⟨x.num * Nat.pow 10 (-e).toNat, x.den⟩

/-- The largest `e` with `10 ^ e` at most the quotient, found upwards from an estimate below. -/
def leadingExponent (x : Quotient) : Int :=
  let estimate : Int := (((x.num.log2 : Int) - x.den.log2 - 1) * 30103).fdiv 100000 - 1
  let climb (e : Int) : Int := if (scaled 1 10 (e + 1)).atMost x then e + 1 else e
  climb (climb (climb (climb estimate)))

end Quotient

/-- The numbers that round to one word. -/
structure Interval where
  low : Quotient
  high : Quotient
  closed : Bool

def Interval.holds (i : Interval) (x : Quotient) : Bool :=
  if i.closed then i.low.atMost x && x.atMost i.high else i.low.less x && x.less i.high

def Interval.around (m : Nat) (q : Int) (lowerGapIsHalf : Bool) : Interval where
  low := if lowerGapIsHalf then .scaled (4 * m - 1) 2 (q - 2) else .scaled (2 * m - 1) 2 (q - 1)
  high := .scaled (2 * m + 1) 2 (q - 1)
  closed := m % 2 == 0

/-- The better of the two grid points next to the value, if one reads back. -/
def onGrid? (tie : Tie) (i : Interval) (value : Quotient) (scale : Int) : Option Nat :=
  let x := value.shifted scale
  let below := x.num / x.den
  let rest := x.num % x.den
  let lowFits := i.holds (.scaled below 10 scale)
  let highFits := i.holds (.scaled (below + 1) 10 scale)
  let nearerIsHigh :=
    if 2 * rest = x.den then
      match tie with
      | .even => below % 2 == 1
      | .up => true
    else decide (x.den < 2 * rest)
  if lowFits && highFits then some (if nearerIsHigh then below + 1 else below)
  else if lowFits then some below
  else if highFits then some (below + 1)
  else none

/-- Grids of `17 - remaining + 1` digits and finer; at 17 digits one point always reads back. -/
def search (tie : Tie) (i : Interval) (value : Quotient) (lead : Int) : Nat → Decimal
  | 0 => ⟨0, 0⟩
  | remaining + 1 =>
    let scale := lead - (16 - remaining : Int)
    match onGrid? tie i value scale with
    | some digits => ⟨digits, scale⟩
    | none => search tie i value lead remaining

def shortest (tie : Tie) (m : Nat) (q : Int) (lowerGapIsHalf : Bool) : Decimal :=
  let value := Quotient.scaled m 2 q
  search tie (.around m q lowerGapIsHalf) value value.leadingExponent 17

/-- Rounds `x * 10 ^ places` to the nearest integer, a half to the even neighbour. -/
def Quotient.rounded (x : Quotient) (places : Nat) : Nat :=
  let num := x.num * Nat.pow 10 places
  let below := num / x.den
  let rest := num % x.den
  if x.den < 2 * rest ∨ (2 * rest = x.den ∧ below % 2 = 1) then below + 1 else below

end Decimal

end Crossover
