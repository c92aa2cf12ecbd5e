import Crossover.Json.Value
import Crossover.Market.Candle
import Crossover.Number.Reading
import Crossover.Trading.Failure

/-!
# Klines

The dump format of exchanges: a JSON list of rows, each a list of at least seven fields, namely
the opening time, the open, high, low and close price, the volume and the closing time. A field
is a number or a text that reads as one; times are milliseconds. A text that is no list of lists
counts as malformed at the first row; otherwise the first bad row, and in it the first bad field
in the order above, is the reason for refusal. Further fields are ignored.
-/

namespace Crossover.Kline

open Json (Reader Value)

inductive Column
  | openTime
  | openPrice
  | high
  | low
  | closePrice
  | volume
  | closeTime
deriving DecidableEq, Repr

def Column.name : Column → String
  | .openTime => "open_time"
  | .openPrice => "open"
  | .high => "high"
  | .low => "low"
  | .closePrice => "close"
  | .volume => "volume"
  | .closeTime => "close_time"

inductive Defect
  | tooShort (got : Nat)
  | notANumber (column : Column) (found : Value)

def Defect.reason : Defect → String
  | .tooShort got => s!"expected at least 7 fields, got {got}"
  | .notANumber column found =>
    s!"{column.name} is not a number: {String.ofList found.text}"

/-- A row with its first seven fields read. -/
structure Row where
  openTime : Float
  openPrice : Float
  high : Float
  low : Float
  closePrice : Float
  volume : Float
  closeTime : Float

def number? : Value → Option Float
  | .string s => NumberText.float? s.toList
  | .number n => some n.toFloat
  | _ => none

def number (column : Column) (v : Value) : Except Defect Float :=
  match number? v with
  | some x => .ok x
  | none => .error (.notANumber column v)

def row : List Value → Except Defect Row
  | openTime :: openPrice :: high :: low :: closePrice :: volume :: closeTime :: _ => do
    return {
      openTime := ← number .openTime openTime
      openPrice := ← number .openPrice openPrice
      high := ← number .high high
      low := ← number .low low
      closePrice := ← number .closePrice closePrice
      volume := ← number .volume volume
      closeTime := ← number .closeTime closeTime }
  | fields => .error (.tooShort fields.length)

/-- The bar of a row; it belongs to no market yet. -/
def Row.toCandle (r : Row) : Candle Float where
  id := ""
  symbolId := ""
  symbol := ""
  interval := ""
  openTime := .ofMillis (clampedTruncation r.openTime)
  openPrice := r.openPrice
  closePrice := r.closePrice
  closeTime := .ofMillis (clampedTruncation r.closeTime)
  low := r.low
  high := r.high
  volume := r.volume

/-- The bars of rows, of which the first has the given index. -/
def candles : (index : Nat) → List (List Value) → Except (Fault Float) (List (Candle Float))
  | _, [] => .ok []
  | index, fields :: rest =>
    match row fields with
    | .error defect => .error (.malformedKline index defect.reason)
    | .ok r => (candles (index + 1) rest).map (r.toCandle :: ·)

def parse (text : String) : Except (Fault Float) (List (Candle Float)) :=
  match (Reader.list (Reader.list Value.read)).run text.toList with
  | .error e => .error (.malformedKline 0 e.message)
  | .ok rows => candles 0 rows

end Crossover.Kline
