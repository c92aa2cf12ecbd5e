import Crossover.Market.Kline
import Crossover.Session.Feed

/-!
# Replays

A replay is a recorded feed of the bars in a kline file, each as a bar of the pair traded. Files
are looked up by path in a store of texts.
-/

namespace Crossover

inductive FileProblem
  | missing
  | notADirectory
  | isADirectory
  | nameTooLong
  /-- The path holds a character that no path can hold. -/
  | unwritable
deriving DecidableEq, Repr

def FileProblem.message : FileProblem → String
  | .missing => "No such file or directory (os error 2)"
  | .notADirectory => "Not a directory (os error 20)"
  | .isADirectory => "Is a directory (os error 21)"
  | .nameTooLong => "File name too long (os error 36)"
  | .unwritable => "file name contained an unexpected NUL byte"

abbrev Files := String → Except FileProblem String

namespace Replay

def context (path : String) : String := s!"reading replay file {path}"

def load (files : Files) (path : String) (pair : Pair) :
    Except (Failure Float) (List (Candle Float)) :=
  match files path with
  | .error problem =>
    .error ((Failure.outside .file problem.message []).within (context path))
  | .ok text =>
    match Kline.parse text with
    | .error fault => .error (.ofFault fault)
    | .ok candles => .ok (candles.map (Candle.relabel pair))

end Replay

end Crossover
