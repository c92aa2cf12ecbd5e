import Crossover.Market.Candle
import Crossover.Session.Task

/-!
# Feeds

A feed sends candles down a line. The recorded feed sends the bars of a list in order and then
waits to be stopped, so that every bar is delivered. The polled feed asks a source of candles:
once for the warming history, whose bars it sends in order, and then again once per period for
the most recent bar. A stop is not seen while a question is pending. An answer that takes longer
than the time limit counts as no answer, and an empty answer as none either; a failed one ends
the feed. The first tick is one period after the history was handed over. A tick that is missed
by more than five milliseconds fires as soon as it can, once, and the next one is a period after
that; otherwise the next one is a period after the time it was due.
-/

namespace Crossover

variable {α : Type}

inductive Recorded (α : Type)
  | handing (item : Candle α) (rest : List (Candle α))
  | waiting
  | left (result : Except (Failure α) Unit)

namespace Recorded

def send : List (Candle α) → Recorded α
  | [] => .waiting
  | item :: rest => .handing item rest

def begin : Except (Failure α) (List (Candle α)) → Recorded α
  | .error f => .left (.error f)
  | .ok items => send items

def branches : Recorded α → List (Branch (Candle α) (Recorded α))
  | .handing item rest =>
    [.onStop fun _ => .left (.ok ()),
      .onSend item (fun _ => send rest) fun _ => .left (.ok ())]
  | .waiting => [.onStop fun _ => .left (.ok ())]
  | .left _ => []

def ending : Recorded α → Option (Ending α)
  | .left result => some (.returned result)
  | _ => none

def task (α : Type) : Task α (Candle α) (Recorded α) := .plain branches ending

end Recorded

/-- A question to a source of candles, and when it was put. -/
structure Question where
  symbol : String
  interval : String
  page : Nat
  rows : Nat
deriving DecidableEq, Repr

/-- A source of candles with states in `κ`: an answer, and how long it takes. -/
abbrev Source (α κ : Type) := Question → κ → (Nat × Except (Failure α) (List (Candle α))) × κ

structure Polling where
  pair : Pair
  period : Nat
  limit : Nat

inductive Phase (α : Type)
  | seeding (done : Nat) (reply : Except (Failure α) (List (Candle α)))
  | handing (item : Candle α) (rest : List (Candle α))
  | ticking (due : Nat)
  | fetching (done limit : Nat) (reply : Except (Failure α) (List (Candle α))) (nextTick : Nat)
  | handingLatest (item : Candle α) (nextTick : Nat)
  | left (result : Except (Failure α) Unit)

namespace Polled

inductive Note (α : Type)
  | seeded (pair : Pair) (bars : Nat)
  | pulled (openTime : Instant) (close : α)
  | timedOut (limit : Nat)

end Polled

structure Polled (α κ : Type) where
  source : κ
  /-- The questions asked so far, each with its time. -/
  asked : Array (Nat × Question)
  notes : Array (Polled.Note α)
  phase : Phase α

namespace Polled

variable {κ : Type}

def seedQuestion (p : Polling) : Question := ⟨p.pair.symbol, p.pair.interval, 1, p.pair.warming⟩

def latestQuestion (p : Polling) : Question := ⟨p.pair.symbol, p.pair.interval, 1, 1⟩

def seedContext : String := "puller : seed : error pulling candles from api"

def latestContext : String := "puller : error pulling candle from api"

/-- A tick counts as missed when it fires later than this after it was due. -/
def lateness : Nat := 5

def tickAfter (p : Polling) (due now : Nat) : Nat :=
  if due + lateness < now then now + p.period else due + p.period

def begin (source : Source α κ) (p : Polling) (now : Nat) (s : κ) : Polled α κ :=
  let ((delay, reply), s) := source (seedQuestion p) s
  ⟨s, #[(now, seedQuestion p)], #[], .seeding (now + delay) (inContext seedContext reply)⟩

def leave (result : Except (Failure α) Unit) (s : Polled α κ) : Polled α κ :=
  { s with phase := .left result }

/-- Hands over the history from here on, and then ticks. -/
def hand (p : Polling) (items : List (Candle α)) (now : Nat) (s : Polled α κ) : Polled α κ :=
  match items with
  | [] => { s with phase := .ticking (now + p.period) }
  | item :: rest => { s with phase := .handing item rest }

def seed (p : Polling) (reply : Except (Failure α) (List (Candle α))) (now : Nat)
    (s : Polled α κ) : Polled α κ :=
  match reply with
  | .error f => s.leave (.error f)
  | .ok items => hand p items now { s with notes := s.notes.push (.seeded p.pair items.length) }

def fetch (source : Source α κ) (p : Polling) (due now : Nat) (s : Polled α κ) : Polled α κ :=
  let ((delay, reply), k) := source (latestQuestion p) s.source
  { s with
    source := k
    asked := s.asked.push (now, latestQuestion p)
    phase := .fetching (now + delay) (now + p.limit) (inContext latestContext reply)
      (tickAfter p due now) }

def answer (reply : Except (Failure α) (List (Candle α))) (nextTick : Nat) (s : Polled α κ) :
    Polled α κ :=
  match reply with
  | .error f => s.leave (.error f)
  | .ok [] => { s with phase := .ticking nextTick }
  | .ok (item :: _) =>
    { s with
      notes := s.notes.push (.pulled item.openTime item.closePrice)
      phase := .handingLatest item nextTick }

def giveUp (p : Polling) (nextTick : Nat) (s : Polled α κ) : Polled α κ :=
  { s with notes := s.notes.push (.timedOut p.limit), phase := .ticking nextTick }

def branches (source : Source α κ) (p : Polling) (s : Polled α κ) :
    List (Branch (Candle α) (Polled α κ)) :=
  match s.phase with
  | .seeding done reply => [.onTime done fun now => s.seed p reply now]
  | .handing item rest =>
    [.onStop fun _ => s.leave (.ok ()),
      .onSend item (fun now => s.hand p rest now) fun _ => s.leave (.ok ())]
  | .ticking due =>
    [.onStop fun _ => s.leave (.ok ()), .onTime due fun now => s.fetch source p due now]
  | .fetching done limit reply nextTick =>
    if done ≤ limit then [.onTime done fun _ => s.answer reply nextTick]
    else [.onTime limit fun _ => s.giveUp p nextTick]
  | .handingLatest item nextTick =>
    [.onStop fun _ => s.leave (.ok ()),
      .onSend item (fun _ => { s with phase := .ticking nextTick }) fun _ => s.leave (.ok ())]
  | .left _ => []

def ending (s : Polled α κ) : Option (Ending α) :=
  match s.phase with
  | .left result => some (.returned result)
  | _ => none

def task (source : Source α κ) (p : Polling) : Task α (Candle α) (Polled α κ) :=
  .plain (branches source p) ending

end Polled

end Crossover
