import Crossover.Market.Rule
import Crossover.Session.Line

/-!
# Scripted tasks

Tasks that stand in for a feed or a trader at one end of a line: a feeder that sends what it is
given, a consumer that takes what a feed delivers, and a feed and a trader that follow a script
step by step.
-/

namespace Crossover.Rehearsal

variable {α γ ρ : Type}

inductive Finish
  | nothing
  | stopOther
  | closeLine
deriving DecidableEq, Repr

/-- A feeder sends each item, sleeps for the gap after each, and then finishes. -/
inductive Feeder (γ : Type)
  | sending (item : γ) (rest : List γ)
  | sleeping (wake : Nat) (rest : List γ)
  | finished

def Feeder.next : List γ → Feeder γ
  | [] => .finished
  | item :: rest => .sending item rest

def Feeder.branches (gap : Nat) : Feeder γ → List (Branch γ (Feeder γ))
  | .sending item rest =>
    [.onSend item (fun now => .sleeping (now + gap) rest) fun now => .sleeping (now + gap) rest]
  | .sleeping wake rest => [.onTime wake fun _ => Feeder.next rest]
  | .finished => []

def Feeder.isFinished : Feeder γ → Bool
  | .finished => true
  | _ => false

def feederTask (α : Type) (gap : Nat) (finish : Finish) : Task α γ (Feeder γ) where
  branches := Feeder.branches gap
  ending s := if s.isFinished then some (.returned (.ok ())) else none
  holdsLine s := !(s.isFinished && finish == .closeLine)
  stopsOther s := s.isFinished && finish == .stopOther

/-- A consumer takes a number of items before a time limit, pausing after some of them. -/
structure Consumer (γ : Type) where
  /-- What was taken, each with its time. -/
  taken : Array (Nat × γ)
  /-- Set while pausing, and once the consumer has finished. -/
  pauseUntil : Option Nat
  finishedAt : Option Nat

structure Appetite where
  take : Nat
  limit : Nat
  /-- How long to pause after the `n`-th item. -/
  pauses : List (Nat × Nat)
  finish : Finish

def Consumer.start (a : Appetite) : Consumer γ :=
  ⟨#[], none, if a.take = 0 then some 0 else none⟩

def Consumer.resume (a : Appetite) (now : Nat) (s : Consumer γ) : Consumer γ :=
  if a.take ≤ s.taken.size then { s with pauseUntil := none, finishedAt := some now }
  else { s with pauseUntil := none }

def Consumer.eat (a : Appetite) (item : γ) (now : Nat) (s : Consumer γ) : Consumer γ :=
  let s := { s with taken := s.taken.push (now, item) }
  match a.pauses.lookup s.taken.size with
  | some pause => { s with pauseUntil := some (now + pause) }
  | none => s.resume a now

def Consumer.branches (a : Appetite) (s : Consumer γ) : List (Branch γ (Consumer γ)) :=
  match s.finishedAt, s.pauseUntil with
  | some _, _ => []
  | none, some wake => [.onTime wake fun now => s.resume a now]
  | none, none =>
    [.onReceive (fun item now => s.eat a item now)
        fun now => { s with finishedAt := some now },
      .onTime a.limit fun now => { s with finishedAt := some now }]

def consumerTask (α : Type) (a : Appetite) : Task α γ (Consumer γ) where
  branches := Consumer.branches a
  ending s := if s.finishedAt.isSome then some (.returned (.ok ())) else none
  holdsLine s := !(s.finishedAt.isSome && a.finish == .closeLine)
  stopsOther s := s.finishedAt.isSome && a.finish == .stopOther

inductive FeedStep (α : Type)
  | send (count : Nat)
  | sleep (ms : Nat)
  | fail (failure : Failure α)
  | panic
  | finish

/-- A scripted feed sends copies of one item; after its last step it waits to be stopped. -/
inductive ScriptedFeed (α : Type)
  | sending (more : Nat) (rest : List (FeedStep α))
  | sleeping (wake : Nat) (rest : List (FeedStep α))
  | waiting
  | left (ending : Ending α)

def ScriptedFeed.next (now : Nat) : List (FeedStep α) → ScriptedFeed α
  | [] => .waiting
  | .send 0 :: rest => next now rest
  | .send (n + 1) :: rest => .sending n rest
  | .sleep ms :: rest => .sleeping (now + ms) rest
  | .fail f :: _ => .left (.returned (.error f))
  | .panic :: _ => .left .panicked
  | .finish :: _ => .left (.returned (.ok ()))

def ScriptedFeed.branches (item : γ) : ScriptedFeed α → List (Branch γ (ScriptedFeed α))
  | .sending more rest =>
    [.onSend item
      (fun now => match more with
        | 0 => next now rest
        | n + 1 => .sending n rest)
      fun _ => .left (.returned (.ok ()))]
  | .sleeping wake rest => [.onTime wake fun now => next now rest]
  | .waiting => [.onStop fun _ => .left (.returned (.ok ()))]
  | .left _ => []

def ScriptedFeed.ending : ScriptedFeed α → Option (Ending α)
  | .left ending => some ending
  | _ => none

def scriptedFeedTask (item : γ) : Task α γ (ScriptedFeed α) :=
  .plain (ScriptedFeed.branches item) ScriptedFeed.ending

/-- A scripted trader asks its rule about a number of items, sleeping after each, and then ends
as told. An item that is there is taken before a stop is seen. -/
structure TraderScript (α : Type) where
  take : Nat
  delay : Nat
  finish : Ending α

inductive TraderPhase (α : Type)
  | waiting
  | sleeping (wake : Nat)
  | left (ending : Ending α)

structure ScriptedTrader (α ρ : Type) where
  rule : ρ
  traded : Nat
  phase : TraderPhase α

def ScriptedTrader.resume (script : TraderScript α) (s : ScriptedTrader α ρ) :
    ScriptedTrader α ρ :=
  if script.take ≤ s.traded then { s with phase := .left script.finish }
  else { s with phase := .waiting }

/-- A trader that starts at time zero, which is when it looks at its script. -/
def ScriptedTrader.begin (rule : ρ) : ScriptedTrader α ρ := ⟨rule, 0, .sleeping 0⟩

def ScriptedTrader.take (rule : Rule α ρ) (script : TraderScript α) (item : Candle α) (now : Nat)
    (s : ScriptedTrader α ρ) : ScriptedTrader α ρ :=
  ⟨(rule.advise s.rule item).2, s.traded + 1, .sleeping (now + script.delay)⟩

def ScriptedTrader.branches (rule : Rule α ρ) (script : TraderScript α)
    (s : ScriptedTrader α ρ) : List (Branch (Candle α) (ScriptedTrader α ρ)) :=
  let leave : ScriptedTrader α ρ := { s with phase := .left (.returned (.ok ())) }
  match s.phase with
  | .waiting =>
    [.onReceive (fun item now => s.take rule script item now) fun _ => leave,
      .onStop fun _ => leave]
  | .sleeping wake => [.onTime wake fun _ => s.resume script]
  | .left _ => []

def ScriptedTrader.ending (s : ScriptedTrader α ρ) : Option (Ending α) :=
  match s.phase with
  | .left ending => some ending
  | _ => none

def scriptedTraderTask (rule : Rule α ρ) (script : TraderScript α) :
    Task α (Candle α) (ScriptedTrader α ρ) :=
  .plain (ScriptedTrader.branches rule script) ScriptedTrader.ending

end Crossover.Rehearsal
