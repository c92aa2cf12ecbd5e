import Crossover.Remote.Client
import Crossover.Settings.Validity
import Crossover.Trading.Budget

/-!
# Wiring a session

The settings decide which feed and which trader a session joins, and whether the exchange is used
at all, in which case a client is created and logs in first. Times of the wiring are in
milliseconds.
-/

namespace Crossover.Command

open Remote (Client Connection Opening Transport)

inductive FeedPlan
  | polled (polling : Polling)
  | recorded (path : String) (pair : Pair)

inductive TraderPlan
  | live (client : Client)
  | simulated (idle : Nat)

structure Wiring where
  feed : FeedPlan
  trader : TraderPlan
  budget : Balances Float

def clientContext : String := "building http client"

def logInContext : String := "unable to authenticate against the api"

def newClient (opening : Opening) (s : ApiSettings) : Except (Failure Float) Client :=
  match opening s.requestTimeout with
  | .error why => .error ((Failure.outside .transport why.message why.because).within clientContext)
  | .ok () => .ok (.new s.endpoint s.username s.password)

variable {κ : Type}

/-- A client that has logged in, if the mode uses the exchange. -/
def connect (opening : Opening) (transport : Transport κ) (s : Settings) (link : κ) :
    Except (Failure Float) (Option Client) × κ :=
  if s.mode.usesApi then
    match newClient opening s.api with
    | .error f => (.error f, link)
    | .ok c =>
      let (reply, connection) := Connection.logIn transport ⟨c, link⟩
      ((inContext logInContext reply).map fun _ => some connection.client, connection.link)
  else (.ok none, link)

def recordedFeed (s : Settings) : Except (Failure Float) FeedPlan :=
  match s.feed.replayFile with
  | none => .error (.outside .other "puller.replay_file is not set" [])
  | some path => .ok (.recorded path s.strategy.pair)

def seconds (r : Except Unfit Nat) : Except (Failure Float) Nat :=
  (r.map (1000 * ·)).mapError fun u => .ofFault u.fault

def polledFeed (s : Settings) : Except (Failure Float) FeedPlan := do
  let period ← seconds s.pollInterval
  let limit ← seconds s.fetchTimeout
  return .polled ⟨s.strategy.pair, period, limit⟩

def budget (s : StrategySettings) : Balances Float := ⟨s.base, s.alt, s.lot⟩

def plan (s : Settings) (client : Option Client) : Except (Failure Float) Wiring :=
  match s.mode, client with
  | .live, some client => (polledFeed s).map (⟨·, .live client, budget s.strategy⟩)
  | .replay, some client => (recordedFeed s).map (⟨·, .live client, budget s.strategy⟩)
  | .backtest, _ =>
    (recordedFeed s).map (⟨·, .simulated (1000 * s.idleTimeout), budget s.strategy⟩)
  | mode, none => .error (.outside .other s!"{mode.name} mode needs an api client" [])

def build (opening : Opening) (transport : Transport κ) (s : Settings) (link : κ) :
    Except (Failure Float) Wiring × κ :=
  let (client, link) := connect opening transport s link
  (client >>= plan s, link)

end Crossover.Command
