import Crossover.Log.Event
import Crossover.Session.Feed
import Crossover.Session.Run
import Crossover.Time.Stamp

/-!
# What feeds and the runner log

The events of the two feeds, which end with one event unless they fail, and of the runner.
-/

namespace Crossover

open Log (Datum Event)

def feedLeft (origin : String) : Event :=
  ⟨.info, origin, "puller : gracefully shutting down the puller", []⟩

namespace Recorded

def origin : String := "machina::pullers::file"

def events (path : String) (bars : Nat) (s : Recorded Float) : List Event :=
  ⟨.info, origin, "puller : replaying file", [("file", .text path), ("candles", .count bars)]⟩ ::
    match s with
    | .left (.ok ()) => [feedLeft origin]
    | _ => []

end Recorded

namespace Polled

def origin : String := "machina::pullers::api"

def Note.event : Note Float → Event
  | .seeded pair bars =>
    ⟨.info, origin, "puller : seeded",
      [("symbol", .text pair.symbol), ("interval", .text pair.interval), ("candles", .count bars)]⟩
  | .pulled openTime close =>
    ⟨.debug, origin, "puller : pulled",
      [("open_time", .text (Stamp.display openTime)), ("close", .real close)]⟩
  | .timedOut limit =>
    ⟨.warn, origin, "puller : candle fetch timed out, waiting for next tick",
      [("timeout_ms", .count limit)]⟩

def events {κ : Type} (s : Polled Float κ) : List Event :=
  s.notes.toList.map Note.event ++
    match s.phase with
    | .left (.ok ()) => [feedLeft origin]
    | _ => []

end Polled

namespace Runner

def origin : String := "machina::core::engine"

def started (rule : String) : Event :=
  ⟨.info, origin, "runner : starting", [("rule", .text rule)]⟩

def stopping (rule : String) (ended : Ended) : Event :=
  ⟨.info, origin, "runner : stopping", [("rule", .text rule), ("ended", .text ended.text)]⟩

def stopped (rule : String) : Except (Failure Float) Unit → Event
  | .ok () => ⟨.info, origin, "runner : stopped", [("rule", .text rule)]⟩
  | .error f =>
    ⟨.error, origin, "runner : stopped with error",
      [("rule", .text rule), ("error", .text f.message)]⟩

end Runner

end Crossover
