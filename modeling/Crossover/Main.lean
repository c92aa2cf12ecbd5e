import Crossover.Command.Run

/-!
# The command line

Gathers the environment and the files the program may ask for, runs it, prints its log, keeps the
log file and leaves with its status. This build has no network, so that a session that uses the
exchange ends when it logs in; and as nothing else can hold it up, no interrupt is waited for.
-/

namespace Crossover.Command

def readFile (path : String) : IO (Except FileProblem String) := do
  try
    return .ok (← IO.FS.readFile path)
  catch
    | .noFileOrDirectory _ _ _ => return .error .missing
    | .inappropriateType _ _ _ => return .error .isADirectory
    | _ => return .error .notADirectory

/-- The files at these paths; every other path counts as missing. -/
def gather (paths : List String) : IO Files := do
  let found ← paths.mapM fun path => return (path, ← readFile path)
  return fun path => (found.lookup path).getD (.error .missing)

def entry? (cs : List Char) : Option (String × String) :=
  match cs.dropWhile (· != '=') with
  | _ :: value => some (String.ofList (cs.takeWhile (· != '=')), String.ofList value)
  | [] => none

def environment : IO Environment := do
  match ← readFile "/proc/self/environ" with
  | .ok text => return (text.splitOn "\x00").filterMap fun s => entry? s.toList
  | .error _ => return []

/-- The world as far as the program looks at it: the replay file is read once the settings name
it. -/
def gatherWorld : IO World := do
  let env ← environment
  let early := [".env", bareSettingsFile, settingsFile]
  let world : World := ⟨← gather early, env, none⟩
  let named := match loadSettings world with
    | .ok s => s.feed.replayFile.toList
    | .error _ => []
  return { world with files := ← gather (early ++ named) }

def keepLog (path : String) (lines : List String) : IO Unit := do
  let folders := (path.splitOn "/").dropLast
  if !folders.isEmpty then IO.FS.createDirAll ("/".intercalate folders)
  IO.FS.writeFile path (String.join (lines.map (· ++ "\n")))

end Crossover.Command

open Crossover.Command in
def main : IO UInt32 := do
  let world ← gatherWorld
  let outcome := run (Crossover.Remote.unreachable Unit) () world
  for event in outcome.events do
    IO.println (outcome.line event)
  if let some path := outcome.logFile then
    keepLog path (outcome.events.map Crossover.Log.Event.withOrigin)
  if outcome.failure.isSome then IO.eprintln outcome.errorText
  return outcome.status.toUInt32
