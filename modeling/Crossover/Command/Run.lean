import Crossover.Command.LogFile
import Crossover.Command.Variables
import Crossover.Command.Wiring
import Crossover.Log.Feeding
import Crossover.Log.Filter
import Crossover.Log.Trading
import Crossover.Session.Replay

/-!
# The program

The program reads its settings, opens its log, checks the settings, wires a session, runs it with
the crossover rule and reports the profit. Whatever fails ends it: with status 1, and with the
failure and its causes on the error output. An interrupt stops the session; here it comes once a
number of lines with a certain mark have been printed and nobody in the session can move.
-/

namespace Crossover.Command

open Log (Event Filter)
open Remote (Client Connection Opening Transport)

/-- An interrupt: so many lines with a mark. -/
structure Interrupt where
  mark : String
  lines : Nat

/-- What the program finds when it starts. -/
structure World where
  files : Files
  env : Environment
  interrupt : Option Interrupt

structure Outcome where
  failure : Option (Failure Float)
  /-- The events its log lets through. -/
  events : List Event
  json : Bool
  logFile : Option String

namespace Outcome

def status (o : Outcome) : Nat := if o.failure.isSome then 1 else 0

def errorText (o : Outcome) : String := (o.failure.map Failure.report).getD ""

def line (o : Outcome) (e : Event) : String :=
  if o.json then String.ofList e.value.text else e.plain

end Outcome

def origin : String := "machina"

def started (s : Settings) : Event :=
  ⟨.info, origin, "machina : starting",
    [("mode", .text s.mode.name), ("symbol", .text s.strategy.symbol),
      ("interval", .text s.strategy.interval), ("fast", .count s.strategy.windowFast),
      ("slow", .count s.strategy.windowSlow)]⟩

def interrupted : Event := ⟨.info, origin, "machina : ctrl-c received, shutting down", []⟩

def profitToDate (profit : Float) : Event :=
  ⟨.info, origin, "machina : profit to date", [("profit", .real profit)]⟩

def failed (f : Failure Float) : Event :=
  ⟨.error, origin, "machina : strategy failed", [("error", .text (": ".intercalate f.chain))]⟩

def steps : Nat := 1000000000

def startingRule (s : StrategySettings) : CrossoverState Float :=
  .exponential s.windowFast s.windowSlow s.windowWarming

structure Part (σ : Type) where
  task : Task Float (Candle Float) σ
  start : σ
  events : σ → List Event

/-- A trader, with the rule in its state, and what it answers when asked for its profit. -/
structure TraderPart (τ : Type) where
  task : Task Float (Candle Float) τ
  start : CrossoverState Float → τ
  rule : τ → CrossoverState Float
  events : τ → List Event
  profit : τ → List Event × Float

variable {κ σ τ : Type}

/-- Runs a session and reports how it ended. `atRest` says of the events so far whether the
interrupt has come. -/
def runSession (feed : Part σ) (trader : TraderPart τ) (rule : CrossoverState Float)
    (atRest : List Event → Bool) : List Event × Except (Failure Float) Float :=
  let name := rule.name
  let far (w : Session (Candle Float) σ τ) : List Event :=
    Runner.started name :: feed.events w.line.sender ++ trader.events w.line.receiver
  let stop : Stop (Candle Float) σ τ := ⟨none, fun w => atRest (far w)⟩
  match (Strategy.ofRule rule).run feed.task trader.task trader.rule stop steps feed.start
      trader.start with
  | none => ([], .error (.outside .other "the session did not end" []))
  | some report =>
    match report.session with
    | none => ([], report.result.map fun _ => 0.0)
    | some w =>
      let before := far w ++ (if w.signalled then [interrupted] else [])
      let ended := match w.watch with
        | .finished ended => [Runner.stopping name ended]
        | _ => []
      let stopped := Runner.stopped name report.result
      match report.handedBack trader.task with
      | .error f => (before ++ ended ++ [stopped, failed f], .error f)
      | .ok back =>
        let (events, profit) := trader.profit back
        (before ++ ended ++ stopped :: events ++ [profitToDate profit], .ok profit)

def recordedPart (files : Files) (path : String) (pair : Pair) : Part (Recorded Float) where
  task := Recorded.task Float
  start := Recorded.begin (Replay.load files path pair)
  events s :=
    match Replay.load files path pair with
    | .error _ => []
    | .ok items => Recorded.events path items.length s

def polledPart (transport : Transport κ) (p : Polling) (c : Connection κ) :
    Part (Polled Float (Connection κ)) where
  task := Polled.task (Remote.source transport) p
  start := Polled.begin (Remote.source transport) p 0 c
  events := Polled.events

def simulatedPart (idle : Nat) (budget : Balances Float) :
    TraderPart (Attendance Float (Simulated.Working Float (Balances Float)
      (CrossoverState Float))) where
  task := Simulated.task (crossoverRule Float) (fixedBudget Float) idle
  start := Simulated.begin idle (.start budget)
  rule s := s.trader.rule
  events s := Simulated.events Balances.text budget s.trader.rule.name idle s
  profit s := (s.trader.trader.profitEvents, s.trader.trader.profit)

def livePart (transport : Transport κ) (budget : Balances Float) (c : Connection κ) :
    TraderPart (Attendance Float (Live.Working Float (Balances Float) (Connection κ)
      (CrossoverState Float))) where
  task := Live.task (crossoverRule Float) (fixedBudget Float) (Remote.exchange transport)
  start := Live.begin (.start budget c)
  rule s := s.trader.rule
  events s := Live.events Balances.text budget s.trader.rule.name s
  profit s :=
    let (profit, _) := Live.profit (Remote.exchange transport) s.trader.trader
    (Live.profitEvents profit, Live.profitOrZero profit)

/-- Runs a wired session; the feed and the trader each have a connection of their own. -/
def Wiring.run (transport : Transport κ) (link : κ) (files : Files)
    (rule : CrossoverState Float) (atRest : List Event → Bool) (w : Wiring) :
    List Event × Except (Failure Float) Float :=
  match w.feed, w.trader with
  | .recorded path pair, .simulated idle =>
    runSession (recordedPart files path pair) (simulatedPart idle w.budget) rule atRest
  | .recorded path pair, .live c =>
    runSession (recordedPart files path pair) (livePart transport w.budget ⟨c, link⟩) rule atRest
  | .polled p, .live c =>
    runSession (polledPart transport p ⟨c, link⟩) (livePart transport w.budget ⟨c, link⟩) rule
      atRest
  | .polled p, .simulated idle =>
    runSession (polledPart transport p ⟨.new "" "" "", link⟩) (simulatedPart idle w.budget) rule
      atRest

/-- The environment with the variables of the file `.env` added. -/
def World.environment (w : World) : Environment :=
  match w.files ".env" with
  | .ok text => VariableFile.add text w.env
  | .error _ => w.env

def settingsContext : String := "loading configuration"

/-- The name of the settings file without its ending. A file of that name hides the settings. -/
def bareSettingsFile : String := "Settings"

def World.settingsText (w : World) : Option String :=
  match w.files bareSettingsFile with
  | .ok _ => none
  | .error _ => (w.files settingsFile).toOption

def loadSettings (w : World) : Except (Failure Float) Settings :=
  (Settings.load w.settingsText w.environment).mapError fun problem =>
    (Failure.outside .other problem.message []).within settingsContext

def logFilter (w : World) (s : LogSettings) : Except (Failure Float) Filter :=
  (Filter.choose (w.environment.lookup "RUST_LOG") s.level).mapError fun problem =>
    (Failure.outside .other (problem.chain.headD "") (problem.chain.drop 1)).within
      ("invalid log level " ++ Text.quoted s.level)

def Interrupt.hasCome (i : Interrupt) (lines : List String) : Bool :=
  i.lines ≤ (lines.filter fun line => i.mark.isEmpty || (line.splitOn i.mark).length != 1).length

def runSettings (opening : Opening) (transport : Transport κ) (link : κ) (w : World) (s : Settings)
    (print : Event → Option String) : List Event × Except (Failure Float) Float :=
  let first := started s
  match build opening transport s link with
  | (.error f, _) => ([first], .error f)
  | (.ok wiring, link) =>
    let atRest (events : List Event) : Bool :=
      w.interrupt.any fun i =>
        i.hasCome (((first :: events).filterMap print).flatMap (·.splitOn "\n"))
    let (events, result) := wiring.run transport link w.files (startingRule s.strategy) atRest
    (first :: events, result)

def failedAtOnce (f : Failure Float) (json : Bool) (logFile : Option String) : Outcome :=
  ⟨some f, [], json, logFile⟩

def runOpening (opening : Opening) (transport : Transport κ) (link : κ) (w : World) : Outcome :=
  match loadSettings w with
  | .error f => failedAtOnce f false none
  | .ok s =>
    match logFilter w s.log with
    | .error f => failedAtOnce f s.log.json none
    | .ok filter =>
      let logFile := s.log.file.bind LogFile.created?
      match s.validate with
      | .error u => failedAtOnce (.ofFault u.fault) s.log.json logFile
      | .ok () =>
        let quiet : Outcome := ⟨none, [], s.log.json, logFile⟩
        let print (e : Event) : Option String :=
          if filter.lets e then some (quiet.line e) else none
        let (events, result) := runSettings opening transport link w s print
        let failure := match result with
          | .ok _ => none
          | .error f => some f
        { quiet with failure := failure, events := events.filter filter.lets }

def run (transport : Transport κ) (link : κ) (w : World) : Outcome :=
  runOpening Remote.opened transport link w

end Crossover.Command
