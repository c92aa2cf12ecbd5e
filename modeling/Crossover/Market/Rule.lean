import Crossover.Market.Average

/-!
# Rules

A rule is asked about every bar and answers with a signal. The crossover rule follows two
averages of one series: the slow one gives the trend, and the body of a bar crossing the fast
one opens a position with the trend or closes the one that is held. It holds while either
average is zero, which stands for "not enough bars", or while the slow one has seen fewer bars
than the warming period. Updates of the last bar are never looked at twice.

A scripted rule answers a list of signals in order and then holds.
-/

namespace Crossover

/-- What a rule reports about an advice: the two averages and the close behind it. -/
structure Remark (α : Type) where
  side : Side
  action : Action
  fast : α
  slow : α
  close : α

structure Rule (α ρ : Type) where
  name : ρ → String
  advise : ρ → Candle α → Signal × ρ
  /-- The report on a signal, from the state after it. -/
  remark : ρ → Candle α → Signal → Option (Remark α)

structure CrossoverState (α : Type) where
  series : Series α
  fast : Indicator α
  slow : Indicator α
  warming : Nat

namespace CrossoverState

variable {α : Type} [Scalar α]

def start (fast slow : Weighting) (fastWindow slowWindow warming : Nat) : CrossoverState α :=
  ⟨.empty, .start fast fastWindow, .start slow slowWindow, warming⟩

def exponential (fastWindow slowWindow warming : Nat) : CrossoverState α :=
  start .exponential .exponential fastWindow slowWindow warming

def name (r : CrossoverState α) : String :=
  s!"moving-average[fast: {r.fast.window}, slow: {r.slow.window}, warming: {r.warming}]"

def isReady (r : CrossoverState α) : Bool :=
  !Scalar.same r.fast.value Scalar.zero && !Scalar.same r.slow.value Scalar.zero &&
    decide (r.warming ≤ r.slow.bars)

def verdict (rising : Bool) (cross : Cross) : Signal :=
  match rising, cross with
  | _, .none => .hold
  | false, .down => .advice .sell .openPosition
  | false, .up => .advice .sell .closePosition
  | true, .up => .advice .buy .openPosition
  | true, .down => .advice .buy .closePosition

def condition (r : CrossoverState α) : Signal :=
  verdict r.slow.average.isRising (r.fast.average.crossing r.series)

/-- Keeps a new bar and advances both averages over it. -/
def observe (r : CrossoverState α) (c : Candle α) : CrossoverState α :=
  let series := r.series.add c
  { r with series := series, slow := r.slow.advance series, fast := r.fast.advance series }

def advise (r : CrossoverState α) (c : Candle α) : Signal × CrossoverState α :=
  if r.series.isNew c then
    let r := r.observe c
    (if r.isReady then r.condition else .hold, r)
  else (.hold, r)

def remark (r : CrossoverState α) (c : Candle α) (signal : Signal) : Option (Remark α) :=
  match signal with
  | .hold => none
  | .advice side action => some ⟨side, action, r.fast.value, r.slow.value, c.closePrice⟩

end CrossoverState

def crossoverRule (α : Type) [Scalar α] : Rule α (CrossoverState α) where
  name := CrossoverState.name
  advise := CrossoverState.advise
  remark := CrossoverState.remark

def scriptedRule (α : Type) : Rule α (List Signal) where
  name _ := "scripted"
  advise script _ :=
    match script with
    | [] => (.hold, [])
    | signal :: rest => (signal, rest)
  remark _ _ _ := none

end Crossover
