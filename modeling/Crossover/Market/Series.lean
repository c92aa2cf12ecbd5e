import Crossover.Market.Candle

/-!
# Series of candles

The bars kept so far, oldest first. A bar that opens at the same time as the last one kept is
dropped; otherwise the order of bars is not looked at. The mean close of a window is taken over
the last bars, fewer when the series is shorter than the window.
-/

namespace Crossover

structure Series (α : Type) where
  candles : Array (Candle α)

namespace Series

variable {α : Type}

def empty : Series α := ⟨#[]⟩

def toList (s : Series α) : List (Candle α) := s.candles.toList

def size (s : Series α) : Nat := s.candles.size

def last? (s : Series α) : Option (Candle α) := s.candles.back?

def isNew (s : Series α) (c : Candle α) : Bool :=
  match s.last? with
  | none => true
  | some last => last.openTime != c.openTime

def push (s : Series α) (c : Candle α) : Series α := ⟨s.candles.push c⟩

/-- Keeps the candle if it is a new bar. -/
def add (s : Series α) (c : Candle α) : Series α :=
  if s.isNew c then s.push c else s

@[simp] theorem toList_empty : (empty : Series α).toList = [] := rfl

@[simp] theorem toList_push (s : Series α) (c : Candle α) :
    (s.push c).toList = s.toList ++ [c] := by
  simp [push, toList]

theorem length_toList (s : Series α) : s.toList.length = s.size := rfl

theorem last?_eq_getLast? (s : Series α) : s.last? = s.toList.getLast? := by
  simp [last?, toList, Array.back?]

def closes (s : Series α) : List α := s.toList.map (·.closePrice)

def lastCloses (s : Series α) (n : Nat) : List α :=
  (s.candles.extract (s.size - n) s.size).toList.map (·.closePrice)

theorem lastCloses_eq_drop (s : Series α) (n : Nat) :
    s.lastCloses n = s.closes.drop (s.closes.length - n) := by
  simp only [lastCloses, closes, toList, size, Array.toList_extract, List.extract_eq_take_drop,
    List.length_map, Array.length_toList, List.map_take, List.map_drop]
  exact List.take_of_length_le (by simp)

variable [Scalar α]

/-- The last bar, or a blank candle while there is none. -/
def last (s : Series α) : Candle α :=
  s.last?.getD .blank

def meanClose (s : Series α) (window : Nat) : α :=
  let n := min window s.size
  if n = 0 then Scalar.zero
  else Scalar.sum (s.lastCloses n) / Scalar.ofCount n

end Series

end Crossover
