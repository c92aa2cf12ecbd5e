import Crossover.Session.Attendance
import Crossover.Trading.Live
import Crossover.Trading.Simulated

/-!
# Traders at work

A trader at work holds its own state, the rule it was lent and the notes it has made. Both
traders attend to a line of candles; the simulated one also leaves after an idle time.
-/

namespace Crossover

structure AtWork (σ ρ ν : Type) where
  trader : σ
  rule : ρ
  notes : Array ν

variable {α β κ ρ : Type}

namespace AtWork

def begin {σ ν : Type} (trader : σ) (rule : ρ) : AtWork σ ρ ν := ⟨trader, rule, #[]⟩

end AtWork

namespace Simulated

abbrev Working (α β ρ : Type) := AtWork (Simulated α β) ρ (Note α β)

def work [Scalar α] (rule : Rule α ρ) (budget : Budget α β) (candle : Candle α)
    (w : Working α β ρ) : Working α β ρ × Except (Failure α) Unit :=
  let (turn, r) := handle rule budget candle (w.trader, w.rule)
  (⟨turn.state, r, w.notes ++ turn.notes⟩, turn.result)

def task [Scalar α] (rule : Rule α ρ) (budget : Budget α β) (idle : Nat) :
    Task α (Candle α) (Attendance α (Working α β ρ)) :=
  Attendance.task (work rule budget) (some idle)

def begin (idle : Nat) (s : Simulated α β) (rule : ρ) : Attendance α (Working α β ρ) :=
  Attendance.begin (some idle) 0 (.begin s rule)

end Simulated

namespace Live

abbrev Working (α β κ ρ : Type) := AtWork (Live α β κ) ρ (Note α β)

def work (rule : Rule α ρ) (budget : Budget α β) (exchange : Exchange α κ) (candle : Candle α)
    (w : Working α β κ ρ) : Working α β κ ρ × Except (Failure α) Unit :=
  let (turn, r) := handle rule budget exchange candle (w.trader, w.rule)
  (⟨turn.state, r, w.notes ++ turn.notes⟩, turn.result)

def task (rule : Rule α ρ) (budget : Budget α β) (exchange : Exchange α κ) :
    Task α (Candle α) (Attendance α (Working α β κ ρ)) :=
  Attendance.task (work rule budget exchange) none

def begin (s : Live α β κ) (rule : ρ) : Attendance α (Working α β κ ρ) :=
  Attendance.begin none 0 (.begin s rule)

end Live

end Crossover
