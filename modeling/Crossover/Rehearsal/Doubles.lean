import Crossover.Market.Rule
import Crossover.Trading.Budget
import Crossover.Trading.Exchange

/-!
# Doubles

A budget, an exchange and a rule are tried out behind doubles that keep a list of what they are
asked, or fail at chosen calls. A double does not change what the call it lets through does.
-/

namespace Crossover

variable {α β κ ρ : Type}

namespace Budget

/-- What a budget is asked to book, and its answer. -/
inductive Call (α : Type)
  | opening (side : Side) (candle : Candle α) (reply : Except (Failure α) α)
  | closing (side : Side) (status : Status) (candle : Candle α) (reply : Except (Failure α) α)

/-- The budget with a list of the calls so far, the latest at the end. -/
def recording (budget : Budget α β) : Budget α (β × List (Call α)) where
  bookOpen b side candle :=
    let (reply, b') := budget.bookOpen b.1 side candle
    (reply, b', b.2 ++ [.opening side candle reply])
  bookClose b side status candle :=
    let (reply, b') := budget.bookClose b.1 side status candle
    (reply, b', b.2 ++ [.closing side status candle reply])

end Budget

namespace Exchange

/-- What an exchange is asked, and its answer. -/
inductive Call (α : Type)
  | listing (reply : Except (Failure α) (List (Position α)))
  | lookup (reply : Except (Failure α) (Option (Position α)))
  | creation (new : NewPosition) (quantity : α) (reply : Except (Failure α) (Position α))
  | ordering (new : NewOrder α) (reply : Except (Failure α) (Order α))
  | closing (id : String) (reply : Except (Failure α) (Option (Position α)))

def noting {ω : Type} (call : κ → Except (Failure α) ω × κ)
    (note : Except (Failure α) ω → Call α) (k : κ × List (Call α)) :
    Except (Failure α) ω × (κ × List (Call α)) :=
  let (reply, k') := call k.1
  (reply, k', k.2 ++ [note reply])

/-- The exchange with a list of the calls so far, the latest at the end. -/
def recording (exchange : Exchange α κ) : Exchange α (κ × List (Call α)) where
  list := noting exchange.list .listing
  newest := noting exchange.newest .lookup
  create k new quantity :=
    noting (fun k => exchange.create k new quantity) (.creation new quantity) k
  order k new := noting (fun k => exchange.order k new) (.ordering new) k
  close k id := noting (fun k => exchange.close k id) (.closing id) k

end Exchange

namespace Rehearsal

/-- Failures by the number of the call they strike, counted from one. -/
abbrev Faults (α : Type) := List (Nat × Failure α)

structure Faulty (α β : Type) where
  inner : β
  calls : Nat
  faults : Faults α

def Faulty.start (inner : β) (faults : Faults α) : Faulty α β := ⟨inner, 0, faults⟩

/-- One more call, which goes through to the inner state unless a fault strikes it. -/
def Faulty.call {ω : Type} (s : Faulty α β) (through : β → Except (Failure α) ω × β) :
    Except (Failure α) ω × Faulty α β :=
  let n := s.calls + 1
  match s.faults.lookup n with
  | some f => (.error f, { s with calls := n })
  | none =>
    let (reply, inner) := through s.inner
    (reply, { s with calls := n, inner := inner })

def faultyBudget (budget : Budget α β) : Budget α (Faulty α β) where
  bookOpen s side candle := s.call fun b => budget.bookOpen b side candle
  bookClose s side status candle := s.call fun b => budget.bookClose b side status candle

def faultyExchange (exchange : Exchange α κ) : Exchange α (Faulty α κ) where
  list s := s.call exchange.list
  newest s := s.call exchange.newest
  create s new quantity := s.call fun k => exchange.create k new quantity
  order s new := s.call fun k => exchange.order k new
  close s id := s.call fun k => exchange.close k id

abbrev Recorder (α κ : Type) := Faulty α κ × List (Exchange.Call α)

namespace Recorder

def start (inner : κ) (faults : Faults α) : Recorder α κ := (.start inner faults, [])

def exchange (s : Recorder α κ) : Faulty α κ := s.1

end Recorder

def recordedExchange (exchange : Exchange α κ) : Exchange α (Recorder α κ) :=
  (faultyExchange exchange).recording

/-- A call to an exchange without its answer. -/
inductive Call (α : Type)
  | list
  | newest
  | create (new : NewPosition) (quantity : α)
  | order (new : NewOrder α)
  | close (id : String)

def Call.ofRecorded : Exchange.Call α → Call α
  | .listing _ => .list
  | .lookup _ => .newest
  | .creation new quantity _ => .create new quantity
  | .ordering new _ => .order new
  | .closing id _ => .close id

def Recorder.calls (s : Recorder α κ) : Array (Call α) := (s.2.map .ofRecorded).toArray

def recordingRule (rule : Rule α ρ) : Rule α (ρ × Array Signal) where
  name s := rule.name s.1
  advise s candle :=
    let (signal, r) := rule.advise s.1 candle
    (signal, (r, s.2.push signal))
  remark s candle signal := rule.remark s.1 candle signal

end Rehearsal

end Crossover
