import Crossover.Session.Line

/-!
# Sessions

A session joins a feed and a trader by a line under one runner. The runner watches until it
sees one of three things, the stop signal, the end of the feed or the end of the trader; it then
stops both tasks and waits until both have ended. What it saw first decides the outcome: the
failure of that task if it failed, else the failure of the other, a stop signal counting as the
trader.

A strategy lends its rule to the trader for one session after another and takes it back from the
trader when the session is over. A trader that panics takes the rule with it, and a strategy
without a rule refuses to run.
-/

namespace Crossover

/-- What the runner saw first. -/
inductive Ended
  | signal
  | feed
  | trader
deriving DecidableEq, Repr

def Ended.text : Ended → String
  | .signal => "stop signal"
  | .feed => "puller"
  | .trader => "trader"

inductive Watch
  | watching
  | stopping (ended : Ended)
  | finished (ended : Ended)
deriving DecidableEq, Repr

def Watch.stops : Watch → Bool
  | .watching => false
  | _ => true

structure Session (γ σ τ : Type) where
  line : Line γ σ τ
  /-- Whether the stop signal has fired, or can never fire any more. -/
  signalled : Bool
  watch : Watch

/-- When the stop signal fires: at a time, if one is given, and in states in which nobody can
move. -/
structure Stop (γ σ τ : Type) where
  time : Option Nat
  atRest : Session γ σ τ → Bool

def Stop.atTime {γ σ τ : Type} (time : Option Nat) : Stop γ σ τ := ⟨time, fun _ => false⟩

inductive Turn
  | feed
  | trader
deriving DecidableEq, Repr

namespace Session

variable {α γ σ τ : Type}

def start (feed : σ) (trader : τ) : Session γ σ τ := ⟨.start feed trader, false, .watching⟩

variable (S : Task α γ σ) (T : Task α γ τ)

def runnerMoves (w : Session γ σ τ) : List (Session γ σ τ) :=
  match w.watch with
  | .watching =>
    (if w.signalled then [{ w with watch := .stopping .signal }] else []) ++
    (if S.hasEnded w.line.sender then [{ w with watch := .stopping .feed }] else []) ++
    if T.hasEnded w.line.receiver then [{ w with watch := .stopping .trader }] else []
  | .stopping ended =>
    if S.hasEnded w.line.sender && T.hasEnded w.line.receiver then
      [{ w with watch := .finished ended }]
    else []
  | .finished _ => []

/-- The moves of the runner and of the two tasks, which only the runner stops. -/
def moves (w : Session γ σ τ) : List (Session γ σ τ) :=
  runnerMoves S T w ++
    (w.line.senderMoves S T w.watch.stops ++ w.line.receiverMoves S T w.watch.stops).map
      fun line => { w with line := line }

def fire (w : Session γ σ τ) : Session γ σ τ := { w with signalled := true }

def passTo (due : Nat) (w : Session γ σ τ) : Session γ σ τ :=
  { w with line := { w.line with now := due } }

def nextDue? (stop : Stop γ σ τ) (w : Session γ σ τ) : Option Nat :=
  let stops := if w.signalled then [] else stop.time.toList
  ((S.dues w.line.sender ++ T.dues w.line.receiver ++ stops).filter (w.line.now < ·)).min?

/-- The moves of the two tasks, those of the task whose turn it is first. -/
def taskMoves (turn : Turn) (w : Session γ σ τ) : List (Turn × Session γ σ τ) :=
  let feed := (w.line.senderMoves S T w.watch.stops).map fun line =>
    (Turn.feed, { w with line := line })
  let trader := (w.line.receiverMoves S T w.watch.stops).map fun line =>
    (Turn.trader, { w with line := line })
  match turn with
  | .feed => feed ++ trader
  | .trader => trader ++ feed

/-- The stop signal when nobody can move, else the passing of time. -/
def rest? (stop : Stop γ σ τ) (turn : Turn) (w : Session γ σ τ) : Option (Turn × Session γ σ τ) :=
  if !w.signalled && stop.atRest w then some (turn, w.fire)
  else (nextDue? S T stop w).map fun due => (turn, w.passTo due)

/-- The stop signal if it is due, else one move, else a rest. A task moves on as long as it can
before the other one has its turn, and the runner moves when neither can. Nothing happens any
more once the runner has finished. -/
def step? (stop : Stop γ σ τ) (turn : Turn) (w : Session γ σ τ) :
    Option (Turn × Session γ σ τ) :=
  match w.watch with
  | .finished _ => none
  | _ =>
    if !w.signalled && stop.time.any (· ≤ w.line.now) then some (turn, w.fire)
    else match taskMoves S T turn w ++ (runnerMoves S T w).map (turn, ·) with
      | next :: _ => some next
      | [] => rest? S T stop turn w

def runFrom (stop : Stop γ σ τ) : Nat → Turn → Session γ σ τ → Session γ σ τ
  | 0, _, w => w
  | fuel + 1, turn, w =>
    match step? S T stop turn w with
    | none => w
    | some (turn, w') => runFrom stop fuel turn w'

/-- Follows one of the interleavings, in which the feed has the first turn. -/
def run (stop : Stop γ σ τ) (fuel : Nat) (w : Session γ σ τ) : Session γ σ τ :=
  runFrom S T stop fuel .feed w

/-- One session comes after another in some interleaving; the stop signal may fire at any
moment, and time passes only when no task can move. -/
inductive Next : Session γ σ τ → Session γ σ τ → Prop
  | move {w w' : Session γ σ τ} : w' ∈ moves S T w → Next w w'
  | fire {w : Session γ σ τ} : Next w w.fire
  | wait {w : Session γ σ τ} {due : Nat} : moves S T w = [] → w.line.now < due →
      (∀ d ∈ S.dues w.line.sender ++ T.dues w.line.receiver, w.line.now < d → due ≤ d) →
      Next w (w.passTo due)

def taskContext (name : String) : String := s!"runner : {name} task panicked"

/-- The result of a task; a panic is reported as a failure of the task of that name. -/
def joined (name : String) : Ending α → Except (Failure α) Unit
  | .returned result => result
  | .panicked => .error ((Failure.outside .other "task panicked" []).within (taskContext name))

def outcome (ended : Ended) (feed trader : Ending α) : Except (Failure α) Unit :=
  let pulled := joined "puller" feed
  let traded := joined "trader" trader
  match ended with
  | .feed => pulled >>= fun _ => traded
  | .signal => traded >>= fun _ => pulled
  | .trader => traded >>= fun _ => pulled

def outcome? (w : Session γ σ τ) : Option (Except (Failure α) Unit) :=
  match w.watch, S.ending w.line.sender, T.ending w.line.receiver with
  | .finished ended, some feed, some trader => some (outcome ended feed trader)
  | _, _, _ => none

end Session

inductive RunState
  | running
  | stopped
deriving DecidableEq, Repr

/-- A rule, unless it was lost, and whether a session is under way. -/
structure Strategy (ρ : Type) where
  rule : Option ρ
  state : RunState

namespace Strategy

variable {α γ ρ σ τ : Type}

def ofRule (rule : ρ) : Strategy ρ := ⟨some rule, .stopped⟩

def lent (s : Strategy ρ) : Strategy ρ := { s with rule := none, state := .running }

def regain (s : Strategy ρ) (rule : Option ρ) : Strategy ρ :=
  { s with rule := rule, state := .stopped }

/-- A session that ran, or was refused for lack of a rule. -/
structure Report (α ρ γ σ τ : Type) where
  strategy : Strategy ρ
  session : Option (Session γ σ τ)
  result : Except (Failure α) Unit

/-- Takes the rule back from a trader that has ended, unless it panicked. -/
def returnedRule (T : Task α γ τ) (ruleOf : τ → ρ) (trader : τ) : Option ρ :=
  match T.ending trader with
  | some .panicked => none
  | _ => some (ruleOf trader)

def conclude (S : Task α γ σ) (T : Task α γ τ) (ruleOf : τ → ρ) (w : Session γ σ τ)
    (s : Strategy ρ) : Option (Report α ρ γ σ τ) :=
  (w.outcome? S T).map fun result =>
    ⟨s.regain (returnedRule T ruleOf w.line.receiver), some w, result⟩

def returnedTrader (T : Task α γ τ) (trader : τ) : Option τ :=
  match T.ending trader with
  | some .panicked => none
  | _ => some trader

def traderLost : Failure α := .outside .other "runner : trader task lost" []

/-- What the caller gets: the failure, or else the trader of the session. -/
def Report.handedBack (T : Task α γ τ) (report : Report α ρ γ σ τ) : Except (Failure α) τ :=
  match report.result with
  | .error f => .error f
  | .ok () =>
    match report.session.bind fun w => returnedTrader T w.line.receiver with
    | some trader => .ok trader
    | none => .error traderLost

/-- Runs a session with the rule, for at most `fuel` steps. The feed and the trader are started
at time zero, the trader with the rule. -/
def run (S : Task α γ σ) (T : Task α γ τ) (ruleOf : τ → ρ) (stop : Stop γ σ τ) (fuel : Nat)
    (feed : σ) (trader : ρ → τ) (s : Strategy ρ) : Option (Report α ρ γ σ τ) :=
  match s.rule with
  | none => some ⟨s, none, .error (.ofFault .ruleUnavailable)⟩
  | some rule =>
    conclude S T ruleOf ((Session.start feed (trader rule)).run S T stop fuel) s.lent

end Strategy

end Crossover
