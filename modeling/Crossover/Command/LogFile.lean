/-!
# Where the log file is

The log file is created below the folder its path names. A path that names no file, because it
ends at the root or in the folder itself or the one above, gets a file of the default name in the
folder it leads to. Folders on the way are made, also those that `..` leaves again.
-/

namespace Crossover.LogFile

def defaultName : String := "machina.log"

/-- The parts of a path that name something; a point counts only at the front. -/
def parts (path : String) : List String :=
  match path.splitOn "/" with
  | [] => []
  | first :: rest =>
    (if first.isEmpty then [] else [first]) ++ rest.filter fun p => p != "" && p != "."

def location (path : String) : List String × String :=
  let ps := parts path
  match ps.getLast? with
  | none => (["."], defaultName)
  | some last =>
    if last = "." ∨ last = ".." then (ps.dropLast, defaultName) else (ps.dropLast, last)

/-- The folders that remain when every `..` has left the one before it, the innermost first,
unless one of them leaves the folder the path starts in. -/
def resolve : (inside : List String) → List String → Option (List String)
  | inside, [] => some inside
  | inside, name :: rest =>
    if name = "." then resolve inside rest
    else if name = ".." then
      match inside with
      | [] => none
      | _ :: outer => resolve outer rest
    else resolve (name :: inside) rest

/-- The path of the log file, relative to the folder the program runs in, unless it lies
elsewhere. -/
def created? (path : String) : Option String :=
  let (folder, name) := location path
  if path.startsWith "/" && !(parts path).isEmpty then none
  else (resolve [] folder).map fun inside => "/".intercalate (inside.reverse ++ [name])

end Crossover.LogFile
