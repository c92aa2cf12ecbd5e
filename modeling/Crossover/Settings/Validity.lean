import Crossover.Settings.Basic
import Crossover.Time.Interval
import Crossover.Trading.Failure

/-!
# Valid settings

Which settings a session can run with: windows of at least one bar, the fast one shorter; a
positive lot; a poll interval, given or derived from the interval of the strategy, that the fetch
timeout is shorter than; credentials when the exchange is used; and a file when one is replayed.
The first condition that fails, in this order, is the reason for refusal. A lot that is not a
number passes, since it is not at most zero.
-/

namespace Crossover

inductive Unfit
  | emptyWindow
  | windowOrder (fast slow : Nat)
  | lot
  | pollInterval
  | unknownInterval (text : String)
  | fetchTimeout
  | credentials
  | replayFile
deriving DecidableEq, Repr

def Unfit.reason : Unfit → String
  | .emptyWindow => "moving average windows must be positive"
  | .windowOrder fast slow => s!"fast window ({fast}) must be shorter than slow window ({slow})"
  | .lot => "lot must be positive"
  | .pollInterval => "poll interval must be positive"
  | .unknownInterval text => "unknown interval " ++ Text.quoted text
  | .fetchTimeout => "fetch timeout must be shorter than the poll interval"
  | .credentials => "api username and password are required in live and replay modes"
  | .replayFile => "puller.replay_file is required in replay and backtest modes"

def Unfit.fault {α : Type} (u : Unfit) : Fault α := .invalidSettings u.reason

namespace Settings

def pollInterval (s : Settings) : Except Unfit Nat :=
  match s.feed.pollInterval with
  | some secs => if secs = 0 then .error .pollInterval else .ok secs
  | none =>
    match Interval.seconds? s.strategy.interval with
    | some secs => .ok secs
    | none => .error (.unknownInterval s.strategy.interval)

/-- Seconds a fetch may take: one less than between two polls, but at least one, when unset. -/
def fetchTimeout (s : Settings) : Except Unfit Nat :=
  match s.feed.fetchTimeout with
  | some secs => .ok secs
  | none => s.pollInterval.map fun poll => max (poll - 1) 1

def lacksCredentials (s : Settings) : Bool :=
  s.api.username.isEmpty || s.api.password.isEmpty

def checkSupplies (s : Settings) : Except Unfit Unit :=
  if s.mode.usesApi && s.lacksCredentials then .error .credentials
  else if s.mode.usesFile && s.feed.replayFile.isNone then .error .replayFile
  else .ok ()

def checkTimes (s : Settings) : Except Unfit Unit := do
  let poll ← s.pollInterval
  let limit ← s.fetchTimeout
  if poll ≤ limit then .error .fetchTimeout else .ok ()

def checkStrategy (s : StrategySettings) : Except Unfit Unit :=
  if s.windowFast = 0 ∨ s.windowSlow = 0 then .error .emptyWindow
  else if s.windowSlow ≤ s.windowFast then .error (.windowOrder s.windowFast s.windowSlow)
  else if s.lot ≤ 0.0 then .error .lot
  else .ok ()

def validate (s : Settings) : Except Unfit Unit := do
  checkStrategy s.strategy
  s.checkTimes
  s.checkSupplies

end Settings

end Crossover
