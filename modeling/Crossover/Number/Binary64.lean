/-!
# Binary64 words

The parts of a binary64 word: a sign and a magnitude, which is not a number, infinite, or the
dyadic rational `fraction * 2 ^ scale`. Decimal texts are chosen from these parts in exact
integer arithmetic, so that no rounding of an intermediate result can show in a text.
-/

namespace Crossover.Binary64

/-- The absolute value held by a word. -/
inductive Magnitude
  | nan
  | infinite
  | finite (fraction : Nat) (scale : Int)
deriving DecidableEq, Repr

def fractionField (bits : UInt64) : Nat :=
  bits.toNat % Nat.pow 2 52

def exponentField (bits : UInt64) : Nat :=
  bits.toNat / Nat.pow 2 52 % Nat.pow 2 11

def isNegative (bits : UInt64) : Bool :=
  bits.toNat / Nat.pow 2 63 == 1

/-- Words with a zero exponent field are subnormal and have no hidden bit. -/
def magnitude (bits : UInt64) : Magnitude :=
  let fraction := fractionField bits
  let exponent := exponentField bits
  if exponent = 2047 then
    if fraction = 0 then .infinite else .nan
  else if exponent = 0 then .finite fraction (-1074)
  else .finite (Nat.pow 2 52 + fraction) ((exponent : Int) - 1075)

/-- Above a power of two the next word is twice as far away as the one below. -/
def lowerGapIsHalf (bits : UInt64) : Bool :=
  fractionField bits == 0 && decide (1 < exponentField bits)

def isFinite (bits : UInt64) : Bool :=
  exponentField bits != 2047

def isNaN (bits : UInt64) : Bool :=
  exponentField bits == 2047 && fractionField bits != 0

theorem magnitude_finite_iff (bits : UInt64) :
    (∃ m q, magnitude bits = .finite m q) ↔ isFinite bits = true := by
  unfold magnitude isFinite
  by_cases h : exponentField bits = 2047
  · by_cases hf : fractionField bits = 0 <;> simp [h, hf]
  · by_cases hz : exponentField bits = 0 <;> simp [h, hz]

end Crossover.Binary64

namespace Crossover

/-- Truncates towards zero and clamps to the signed 64-bit range; what is not a number counts
as zero. -/
def clampedTruncation (x : Float) : Int :=
  let bits := x.toBits
  let bound : Nat := Nat.pow 2 63
  let clamp (n : Nat) : Int :=
    if Binary64.isNegative bits then -(min n bound : Nat) else (min n (bound - 1) : Nat)
  match Binary64.magnitude bits with
  | .nan => 0
  | .infinite => clamp bound
  | .finite m q => clamp (if 0 ≤ q then m * Nat.pow 2 (min q.toNat 64) else m / Nat.pow 2 (-q).toNat)

/-- Rounds halves away from zero and clamps to the unsigned 64-bit range. -/
def clampedRounding (x : Float) : Nat :=
  let bits := x.toBits
  let bound : Nat := Nat.pow 2 64 - 1
  if Binary64.isNegative bits then 0
  else match Binary64.magnitude bits with
    | .nan => 0
    | .infinite => bound
    | .finite m q =>
      if 0 ≤ q then min (m * Nat.pow 2 (min q.toNat 64)) bound
      else min ((2 * m + Nat.pow 2 (-q).toNat) / Nat.pow 2 ((-q).toNat + 1)) bound

end Crossover
