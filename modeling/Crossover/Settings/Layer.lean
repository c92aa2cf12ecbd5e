import Crossover.Json.Value
import Crossover.Number.Reading
import Crossover.Text.Lower

/-!
# Layers of settings

Settings are laid over each other: first the file, then the environment. A layer is a table;
laying one over another merges tables and replaces everything else. Names are looked up in lower
case. A setting remembers where it came from; what was only built to hold others has no origin.

A setting is named by a path: names with points between them, each of which may be followed by
indices in brackets. A name leads into a table and an index into a list, and whatever else stands
there gives way to one. An index beyond the end of a list extends it with unset items, and a
negative one counts from the end. A path that is not well-formed is a name as it stands. The
environment writes paths after `machina__`, with `__` for the points.
-/

namespace Crossover

inductive Origin
  | file
  | environment
deriving DecidableEq, Repr

def settingsFile : String := "Settings.json"

def Origin.text : Origin → String
  | .file => settingsFile
  | .environment => "the environment"

/-- A setting that is neither a list nor a table. -/
inductive Plain
  | unset
  | flag (b : Bool)
  | integer (n : Int)
  | real (x : Float)
  | text (s : String)

inductive Setting
  | plain (origin : Option Origin) (value : Plain)
  | list (origin : Option Origin) (items : List Setting)
  | table (fields : List (String × Setting))

instance : Inhabited Setting := ⟨.table []⟩

abbrev Layer := List (String × Setting)

namespace Layer

def put (name : String) (s : Setting) : Layer → Layer
  | [] => [(name, s)]
  | (n, t) :: rest => if n = name then (n, s) :: rest else (n, t) :: put name s rest

end Layer

namespace Setting

def unset : Setting := .plain none .unset

/-- The fields of a table; anything else counts as an empty one. -/
def fields : Setting → Layer
  | .table fields => fields
  | _ => []

/-- The origin and the items of a list; anything else counts as an empty one. -/
def items : Setting → Option Origin × List Setting
  | .list origin items => (origin, items)
  | _ => (none, [])

mutual

def onto : Setting → Option Setting → Setting
  | .table incoming, below => ontoFields incoming (below.getD (.table []))
  | s, _ => s

/-- Fields laid over a setting, which becomes a table with the first of them. -/
def ontoFields : List (String × Setting) → Setting → Setting
  | [], below => below
  | (name, s) :: rest, below =>
    let key := Text.lower name
    ontoFields rest (.table (below.fields.put key (onto s (below.fields.lookup key))))

end

/-- Integers beyond the signed 64-bit range are held as reals. -/
def ofNumber : Json.Number → Plain
  | .natural n => if n < Nat.pow 2 63 then .integer n else .real (Float.ofNat n)
  | .negative n => .integer (-n)
  | .real x => .real x

mutual

def ofValue : Json.Value → Setting
  | .null => .plain (some .file) .unset
  | .bool b => .plain (some .file) (.flag b)
  | .number n => .plain (some .file) (ofNumber n)
  | .string s => .plain (some .file) (.text s)
  | .list items => .list (some .file) (ofValues items)
  | .object fields => .table (ofFields fields)

def ofValues : List Json.Value → List Setting
  | [] => []
  | v :: rest => ofValue v :: ofValues rest

def ofFields : List (String × Json.Value) → List (String × Setting)
  | [] => []
  | (name, v) :: rest => (name, ofValue v) :: ofFields rest

end

end Setting

inductive Step
  | field (name : String)
  | item (index : Int)
deriving DecidableEq, Repr

namespace Step

def isNameChar (c : Char) : Bool :=
  c.isAlphanum || c == ' ' || c == '_' || c == '-'

def isBlank (c : Char) : Bool := c == ' ' || c == '\t'

/-- The name at the front, which must not be empty, and the rest. -/
def name? (cs : List Char) : Option (Step × List Char) :=
  match cs.takeWhile isNameChar with
  | [] => none
  | name => some (.field (String.ofList name), cs.dropWhile isNameChar)

/-- The number of an index between blanks; it must fit a signed 64-bit word. -/
def number? (cs : List Char) : Option Int := do
  let cs := cs.dropWhile isBlank
  let (negative, cs) := match cs with
    | '-' :: rest => (true, rest)
    | _ => (false, cs)
  let digits := cs.takeWhile Char.isDigit
  guard (!digits.isEmpty && (cs.dropWhile Char.isDigit).all isBlank)
  let n := NumberText.digitsValue digits
  guard (n < Nat.pow 2 63 || negative && n == Nat.pow 2 63)
  return if negative then -n else n

def index? (cs : List Char) : Option (Step × List Char) :=
  match cs.dropWhile (· != ']') with
  | _ :: rest => (number? (cs.takeWhile (· != ']'))).map fun n => (.item n, rest)
  | [] => none

def more? : (fuel : Nat) → List Char → Option (List Step)
  | _, [] => some []
  | 0, _ => none
  | fuel + 1, c :: rest => do
    let (step, rest) ←
      if c = '.' then name? rest
      else if c = '[' then index? rest
      else none
    let steps ← more? fuel rest
    return step :: steps

/-- The steps of a path; a text that is no path is a name. -/
def path (s : String) : List Step :=
  let steps? := do
    let (first, rest) ← name? s.toList
    let steps ← more? rest.length rest
    return first :: steps
  steps?.getD [.field s]

end Step

namespace Setting

/-- The position an index means in a list, which is extended if it has no such position. -/
def reach (index : Int) (items : List Setting) : Nat × List Setting :=
  if 0 ≤ index then
    (index.toNat, items ++ List.replicate (index.toNat + 1 - items.length) unset)
  else if index.natAbs ≤ items.length then (items.length - index.natAbs, items)
  else (0, List.replicate (index.natAbs - items.length) unset ++ items)

/-- What stands at the start of a path once a setting has been laid over its end. -/
def lay : List Step → Setting → Option Setting → Setting
  | [], s, _ => s
  | .field name :: rest, s, below =>
    let fields := (below.map fields).getD []
    let key := Text.lower name
    let under := fields.lookup key
    .table (fields.put key (if rest.isEmpty then s.onto under else lay rest s under))
  | .item index :: rest, s, below =>
    let (origin, items) := (below.map items).getD (none, [])
    let (position, items) := reach index items
    .list origin (items.set position (lay rest s items[position]?))

end Setting

namespace Layer

def layAll (named : List (String × Setting)) (layer : Layer) : Layer :=
  named.foldl (fun layer (name, s) => (Setting.lay (Step.path name) s (some (.table layer))).fields)
    layer

end Layer

abbrev Environment := List (String × String)

namespace Environment

def settingsMark : String := "machina__"

/-- The path and the setting of a variable that names one. -/
def setting? : String × String → Option (String × Setting)
  | (name, value) =>
    let name := Text.lower name
    if name.startsWith settingsMark then
      let rest := String.ofList (name.toList.drop settingsMark.length)
      some (".".intercalate (rest.splitOn "__"), .plain (some .environment) (.text value))
    else none

def settings (env : Environment) : List (String × Setting) :=
  env.filterMap setting?

end Environment

end Crossover
