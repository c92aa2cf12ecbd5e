import Crossover.Market.Series

/-!
# Moving averages

An average is advanced once after each bar added to a series it does not own. It keeps its
window, the number of bars it has been advanced by, its value, and the value before that. The
exponential average reports zero until the window is full, starts from the mean of the window,
and then moves towards each close by the fraction `2 / (window + 1)`. The simple average is the
mean of the window, recomputed while the series is not longer than the window and afterwards
rolled forward by the close that enters and the close that leaves.
-/

namespace Crossover

/-- How the body of the last bar crosses a value. -/
inductive Cross
  | none
  | up
  | down
deriving DecidableEq, Repr

structure Average (α : Type) where
  window : Nat
  bars : Nat
  previous : α
  value : α

namespace Average

variable {α : Type} [Scalar α]

def start (window : Nat) : Average α := ⟨window, 0, Scalar.zero, Scalar.zero⟩

def advance (a : Average α) (value : α) : Average α :=
  { a with bars := a.bars + 1, previous := a.value, value := value }

def isRising (a : Average α) : Bool :=
  Scalar.less a.previous a.value

/-- A green body crosses upwards if it holds the value strictly inside, a red one downwards. -/
def crossing (a : Average α) (s : Series α) : Cross :=
  let c := s.last
  if c.isGreen && Scalar.less c.openPrice a.value && Scalar.less a.value c.closePrice then .up
  else if c.isRed && Scalar.less a.value c.openPrice && Scalar.less c.closePrice a.value then .down
  else .none

end Average

inductive Weighting
  | exponential
  | simple
deriving DecidableEq, Repr

/-- An average with its weighting; a simple average remembers whether it has seen a bar. -/
structure Indicator (α : Type) where
  weighting : Weighting
  average : Average α
  seeded : Bool

namespace Indicator

variable {α : Type} [Scalar α]

def start (weighting : Weighting) (window : Nat) : Indicator α :=
  ⟨weighting, .start window, false⟩

def value (i : Indicator α) : α := i.average.value

def previous (i : Indicator α) : α := i.average.previous

def bars (i : Indicator α) : Nat := i.average.bars

def window (i : Indicator α) : Nat := i.average.window

def exponentialNext (window : Nat) (value : α) (s : Series α) : α :=
  if s.size < window then Scalar.zero
  else if s.size = window then s.meanClose window
  else
    (s.last.closePrice - value) * (Scalar.ofCount 2 / (Scalar.ofCount window + Scalar.ofCount 1))
      + value

def leavingClose (window : Nat) (s : Series α) : α :=
  (s.candles[s.size - (window + 1)]?.getD .blank).closePrice

def simpleNext (window : Nat) (seeded : Bool) (value : α) (s : Series α) : α :=
  if !seeded && s.size = 1 then s.last.closePrice
  else if s.size - 1 < window then s.meanClose window
  else value + (s.last.closePrice - leavingClose window s) / Scalar.ofCount window

def advance (i : Indicator α) (s : Series α) : Indicator α :=
  match i.weighting with
  | .exponential =>
    { i with average := i.average.advance (exponentialNext i.window i.value s) }
  | .simple =>
    if s.size = 0 ∨ i.window = 0 then { i with average := i.average.advance i.value }
    else
      { i with
        average := i.average.advance (simpleNext i.window i.seeded i.value s)
        seeded := true }

section Advance

variable (a : Average α) (seeded : Bool) {s : Series α}

theorem advance_exponential :
    (⟨.exponential, a, seeded⟩ : Indicator α).advance s =
      ⟨.exponential, a.advance (exponentialNext a.window a.value s), seeded⟩ := rfl

theorem advance_idle (h : s.size = 0 ∨ a.window = 0) :
    (⟨.simple, a, seeded⟩ : Indicator α).advance s = ⟨.simple, a.advance a.value, seeded⟩ :=
  if_pos h

theorem advance_simple (h : ¬ (s.size = 0 ∨ a.window = 0)) :
    (⟨.simple, a, seeded⟩ : Indicator α).advance s =
      ⟨.simple, a.advance (simpleNext a.window seeded a.value s), true⟩ :=
  if_neg h

end Advance

end Indicator

end Crossover
