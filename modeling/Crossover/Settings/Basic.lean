import Crossover.Market.Candle
import Crossover.Settings.Reading
import Crossover.Text.Mark

/-!
# Settings

All settings of the program with their defaults, and how they are read from the layers: the file,
if there is one, and the environment over it. Fields of a section that is a list are taken in the
order in which they are declared here.
-/

namespace Crossover

/-- Where candles come from and where orders go: both live, candles from a file and live orders,
or candles from a file and simulated orders. -/
inductive Mode
  | live
  | replay
  | backtest
deriving DecidableEq, Repr

namespace Mode

def name : Mode → String
  | .live => "Live"
  | .replay => "Replay"
  | .backtest => "Backtest"

def usesApi : Mode → Bool
  | .live => true
  | .replay => true
  | .backtest => false

def usesFile : Mode → Bool
  | .live => false
  | .replay => true
  | .backtest => true

end Mode

structure StrategySettings where
  symbol : String
  symbolId : String
  interval : String
  base : Float
  alt : Float
  lot : Float
  windowFast : Nat
  windowSlow : Nat
  windowWarming : Nat

structure FeedSettings where
  /-- Derived from the interval of the strategy when unset. -/
  pollInterval : Option Nat
  /-- Derived from the poll interval when unset. -/
  fetchTimeout : Option Nat
  replayFile : Option String

structure ApiSettings where
  endpoint : String
  username : String
  password : String
  requestTimeout : Nat

structure LogSettings where
  level : String
  json : Bool
  file : Option String

/-- Times are in seconds. -/
structure Settings where
  mode : Mode
  strategy : StrategySettings
  feed : FeedSettings
  idleTimeout : Nat
  api : ApiSettings
  log : LogSettings

namespace Setting

def modes : List (String × Mode) :=
  [("live", .live), ("replay", .replay), ("backtest", .backtest)]

def modeOfName (name : String) : Except SettingsProblem Mode :=
  match modes.lookup (Text.lower name) with
  | some mode => .ok mode
  | none => .error (.unknownMode name)

/-- The name of a mode, or a table with it as the only key. -/
def mode : Reader Mode := fun s =>
  match s with
  | .plain _ (.text name) => modeOfName name
  | .table [(name, _)] => modeOfName name
  | _ => .error .misshapenMode

end Setting

namespace StrategySettings

def read (layer : Layer) : Except SettingsProblem StrategySettings := do
  let part ← Section.find layer "strategy" "StrategyConfig"
  return {
    symbol := ← part.get Setting.text 0 "symbol" "ETHUSDT"
    symbolId := ← part.get Setting.text 1 "symbol_id" ""
    interval := ← part.get Setting.text 2 "interval" "4h"
    base := ← part.get Setting.real 3 "base" 0.2
    alt := ← part.get Setting.real 4 "alt" 500.0
    lot := ← part.get Setting.real 5 "lot" 0.1
    windowFast := ← part.get Setting.natural 6 "window_fast" 20
    windowSlow := ← part.get Setting.natural 7 "window_slow" 100
    windowWarming := ← part.get Setting.smallNatural 8 "window_warming" 100 }

def pair (s : StrategySettings) : Pair := ⟨s.symbol, s.symbolId, s.interval, s.windowWarming⟩

end StrategySettings

def FeedSettings.read (layer : Layer) : Except SettingsProblem FeedSettings := do
  let part ← Section.find layer "puller" "PullerConfig"
  return {
    pollInterval := ← part.get (Setting.optional Setting.natural) 0 "poll_interval_secs" none
    fetchTimeout := ← part.get (Setting.optional Setting.natural) 1 "fetch_timeout_secs" none
    replayFile := ← part.get (Setting.optional Setting.text) 2 "replay_file" none }

def ApiSettings.read (layer : Layer) : Except SettingsProblem ApiSettings := do
  let part ← Section.find layer "api" "ApiConfig"
  return {
    endpoint := ← part.get Setting.text 0 "endpoint" "http://localhost:3000"
    username := ← part.get Setting.text 1 "username" ""
    password := ← part.get Setting.text 2 "password" ""
    requestTimeout := ← part.get Setting.natural 3 "request_timeout_secs" 30 }

def LogSettings.read (layer : Layer) : Except SettingsProblem LogSettings := do
  let part ← Section.find layer "log" "LogConfig"
  return {
    level := ← part.get Setting.text 0 "level" "info"
    json := ← part.get Setting.flag 1 "json" false
    file := ← part.get (Setting.optional Setting.text) 2 "file" none }

namespace Settings

def readIdleTimeout (layer : Layer) : Except SettingsProblem Nat := do
  let part ← Section.find layer "backtest" "BacktestConfig"
  part.get Setting.natural 0 "idle_timeout_secs" 3

def readMode (layer : Layer) : Except SettingsProblem Mode :=
  match layer.lookup "mode" with
  | none => .ok .backtest
  | some s => s.mode

def read (layer : Layer) : Except SettingsProblem Settings := do
  return {
    mode := ← readMode layer
    strategy := ← StrategySettings.read layer
    feed := ← FeedSettings.read layer
    idleTimeout := ← readIdleTimeout layer
    api := ← ApiSettings.read layer
    log := ← LogSettings.read layer }

def ofFile (text : String) : Except SettingsProblem (List (String × Setting)) :=
  match Json.Value.read.run (Text.withoutMark text.toList) with
  | .error e => .error (.misspelt e.message)
  | .ok v =>
    match Setting.ofValue v with
    | .table fields => .ok fields
    | s => .error (.notATable (.ofSetting s))

def load (file : Option String) (env : Environment) : Except SettingsProblem Settings := do
  let named ← match file with
    | none => pure []
    | some text => ofFile text
  read (Layer.layAll env.settings (Layer.layAll named []))

end Settings

end Crossover
