import Crossover.Number.Scalar
import Crossover.Time.Instant

/-!
# Candles and signals

A candle is a bar of a market: its opening and closing prices with their times, the range
between, and the volume traded. Bars are told apart by their opening time alone. A signal is what
a rule advises after a bar: to hold, or to open or close a position on one side.
-/

namespace Crossover

inductive Side
  | buy
  | sell
deriving DecidableEq, Repr

def Side.text : Side → String
  | .buy => "BUY"
  | .sell => "SELL"

def Side.opposite : Side → Side
  | .buy => .sell
  | .sell => .buy

inductive Action
  | openPosition
  | closePosition
deriving DecidableEq, Repr

def Action.text : Action → String
  | .openPosition => "OPEN"
  | .closePosition => "CLOSE"

inductive Signal
  | hold
  | advice (side : Side) (action : Action)
deriving DecidableEq, Repr

structure Candle (α : Type) where
  id : String
  symbolId : String
  symbol : String
  interval : String
  openTime : Instant
  openPrice : α
  closePrice : α
  closeTime : Instant
  low : α
  high : α
  volume : α

/-- The market a session trades on, and how many past bars it warms up with. -/
structure Pair where
  symbol : String
  symbolId : String
  interval : String
  warming : Nat
deriving DecidableEq, Repr

namespace Candle

variable {α : Type} [Scalar α]

def blank : Candle α where
  id := ""
  symbolId := ""
  symbol := ""
  interval := ""
  openTime := .epoch
  openPrice := Scalar.zero
  closePrice := Scalar.zero
  closeTime := .epoch
  low := Scalar.zero
  high := Scalar.zero
  volume := Scalar.zero

instance : Inhabited (Candle α) := ⟨blank⟩

def isGreen (c : Candle α) : Bool :=
  Scalar.less c.openPrice c.closePrice

def isRed (c : Candle α) : Bool :=
  Scalar.less c.closePrice c.openPrice

def relabel (pair : Pair) (c : Candle α) : Candle α :=
  { c with symbol := pair.symbol, symbolId := pair.symbolId, interval := pair.interval }

end Candle

end Crossover
