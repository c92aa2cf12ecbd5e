import Crossover.Session.Replay

/-!
# Folders

A folder is a store of files that is given by its listing: paths below the folder with their
texts. A path is followed part by part. Empty parts and `.` stay in the folder reached so far,
`..` leads to the one above it, and nothing leads on from a file. Outside of the folder only the
folders above it are known and, from the root, those of every system; nothing there can be read
but the null device, which is empty.
-/

namespace Crossover

abbrev Folder := List (String × String)

namespace Folder

def stays (name : String) : Bool := name == "" || name == "."

def parts (path : String) : List String :=
  (path.splitOn "/").filter fun p => !stays p

def entries (folder : Folder) : List (List String × String) :=
  folder.map fun (path, text) => (parts path, text)

def isFolder (entries : List (List String × String)) (names : List String) : Bool :=
  entries.any fun e => names.length < e.1.length && names.isPrefixOf e.1

/-- Follows the parts of a path from a folder above. -/
def followAbove (names : List String) : Except FileProblem String :=
  if names.all fun name => stays name || name == ".." then .error .isADirectory
  else .error .missing

def longestName : Nat := 255

def systemFolders : List String := ["dev", "etc", "home", "proc", "tmp", "usr", "var"]

def followRoot : List String → (reached : List String) → Except FileProblem String
  | [], _ => .error .isADirectory
  | name :: rest, reached =>
    if stays name then followRoot rest reached
    else if name = ".." then followRoot rest reached.dropLast
    else if longestName < name.utf8ByteSize then .error .nameTooLong
    else
      let names := reached ++ [name]
      if names = ["dev", "null"] then if rest.isEmpty then .ok "" else .error .notADirectory
      else if reached.isEmpty && systemFolders.contains name then followRoot rest names
      else .error .missing

def follow (entries : List (List String × String)) :
    List String → (reached : List String) → Except FileProblem String
  | [], _ => .error .isADirectory
  | name :: rest, reached =>
    if stays name then follow entries rest reached
    else if name = ".." then
      if reached.isEmpty then followAbove rest else follow entries rest reached.dropLast
    else if longestName < name.utf8ByteSize then .error .nameTooLong
    else
      let names := reached ++ [name]
      match entries.lookup names with
      | some text => if rest.isEmpty then .ok text else .error .notADirectory
      | none => if isFolder entries names then follow entries rest names else .error .missing

def longestPath : Nat := 4095

def read (folder : Folder) : Files := fun path =>
  let names := path.splitOn "/"
  if path.toList.contains '\x00' then .error .unwritable
  else if longestPath < path.utf8ByteSize then .error .nameTooLong
  else if path.isEmpty then .error .missing
  else if path.startsWith "/" then followRoot names []
  else follow (entries folder) names []

end Folder

end Crossover
