import Crossover.Number.Reading
import Crossover.Settings.Layer

/-!
# Reading settings

A setting is read as what its place asks for, with some liberality: texts may spell switches and
numbers, switches count as numbers, reals round to integers, and every plain setting but an unset
one has a text. What cannot be read is reported with what was found, what was expected, the path
of the setting and where it came from. A section is a table of its fields, or a list of them in
order; fields that are missing keep their defaults.
-/

namespace Crossover

/-- What was found in place of something else. -/
inductive Found
  | unset
  | flag (b : Bool)
  | integer (n : Int)
  | natural (n : Nat)
  | real (x : Float)
  | text (s : String)
  | list
  | table

inductive Expected
  | flag
  | integer
  | natural
  | smallNatural
  | real
  | text
  | table
deriving DecidableEq, Repr

inductive SettingsProblem
  /-- A value of the wrong type, with its path and origin as far as they are known. -/
  | mistyped (found : Found) (expected : Expected) (key : Option String) (origin : Option Origin)
  | mistypedSection (found : Found) (name : String)
  | unknownMode (name : String)
  | misshapenMode
  /-- The settings file is not JSON. -/
  | misspelt (message : String)
  /-- The settings file is JSON, but no table. -/
  | notATable (found : Found)

def Found.ofPlain : Plain → Found
  | .unset => .unset
  | .flag b => .flag b
  | .integer n => .integer n
  | .real x => .real x
  | .text s => .text s

def Found.ofSetting : Setting → Found
  | .plain _ value => .ofPlain value
  | .list _ _ => .list
  | .table _ => .table

def Found.message : Found → String
  | .unset => "unit value"
  | .flag b => s!"boolean `{b}`"
  | .integer n => s!"64-bit integer `{n}`"
  | .natural n => s!"64-bit unsigned integer `{n}`"
  | .real x => s!"floating point `{NumberNotation.plain.text x}`"
  | .text s => "string " ++ Text.quoted s
  | .list => "sequence"
  | .table => "map"

/-- What is said of a section in the wrong place; the words for numbers differ. -/
def Found.sectionMessage : Found → String
  | .integer n => s!"integer `{n}`"
  | .real x => s!"floating point `{NumberNotation.withPoint.text x}`"
  | found => found.message

def Expected.message : Expected → String
  | .flag => "a boolean"
  | .integer => "an integer"
  | .natural => "an unsigned 64 bit or less integer"
  | .smallNatural => "an unsigned 32 bit integer"
  | .real => "a floating point"
  | .text => "a string"
  | .table => "a map"

def Origin.suffix : Option Origin → String
  | none => ""
  | some origin => " in " ++ origin.text

def mistypedMessage (found : Found) (expected : Expected) (key : Option String)
    (origin : Option Origin) : String :=
  let place := match key with
    | none => ""
    | some key => s!" for key `{key}`"
  s!"invalid type: {found.message}, expected {expected.message}{place}{Origin.suffix origin}"

def SettingsProblem.message : SettingsProblem → String
  | .mistyped found expected key origin => mistypedMessage found expected key origin
  | .mistypedSection found name =>
    s!"invalid type: {found.sectionMessage}, expected struct {name}"
  | .unknownMode name => "enum Mode does not have variant constructor " ++ name
  | .misshapenMode =>
    "value of enum Mode should be represented by either string or table with exactly one key"
  | .misspelt message => message ++ Origin.suffix (some .file)
  | .notATable found =>
    mistypedMessage found .table none (some .file) ++ Origin.suffix (some .file)

namespace Setting

/-- A reader of one setting; it does not know the path. -/
abbrev Reader (α : Type) := Setting → Except SettingsProblem α

def refuse {α : Type} (expected : Expected) (s : Setting) : Except SettingsProblem α :=
  .error (match s with
    | .plain origin value => .mistyped (.ofPlain value) expected none origin
    | .list origin _ => .mistyped .list expected none origin
    | .table _ => .mistyped .table expected none none)

def switch? (s : String) : Option Bool :=
  if ["true", "on", "yes"].contains (Text.lower s) then some true
  else if ["false", "off", "no"].contains (Text.lower s) then some false
  else none

def flag : Reader Bool := fun s =>
  match s with
  | .plain _ (.flag b) => .ok b
  | .plain _ (.integer n) => .ok (n != 0)
  | .plain _ (.real x) => .ok (x != 0.0)
  | .plain origin (.text t) =>
    match switch? t with
    | some b => .ok b
    | none =>
      if t = "1" then .ok true
      else if t = "0" then .ok false
      else .error (.mistyped (.text (Text.lower t)) .flag none origin)
  | s => s.refuse .flag

def natural : Reader Nat := fun s =>
  match s with
  | .plain _ (.flag b) => .ok b.toNat
  | .plain origin (.integer n) =>
    if 0 ≤ n then .ok n.toNat else .error (.mistyped (.integer n) .natural none origin)
  | .plain _ (.real x) => .ok (clampedRounding x)
  | .plain _ (.text t) =>
    match switch? t with
    | some b => .ok b.toNat
    | none =>
      match NumberText.natural? NumberText.largestWord t.toList with
      | some n => .ok n
      | none => s.refuse .integer
  | s => s.refuse .integer

def smallNatural : Reader Nat := fun s => do
  let n ← natural s
  if n < Nat.pow 2 32 then .ok n else .error (.mistyped (.natural n) .smallNatural none none)

def real : Reader Float := fun s =>
  match s with
  | .plain _ (.flag b) => .ok (if b then 1.0 else 0.0)
  | .plain _ (.integer n) => .ok (Float.ofInt n)
  | .plain _ (.real x) => .ok x
  | .plain _ (.text t) =>
    match switch? t with
    | some b => .ok (if b then 1.0 else 0.0)
    | none =>
      match NumberText.float? t.toList with
      | some x => .ok x
      | none => s.refuse .real
  | s => s.refuse .real

def text : Reader String := fun s =>
  match s with
  | .plain _ (.flag b) => .ok (toString b)
  | .plain _ (.integer n) => .ok (toString n)
  | .plain _ (.real x) => .ok (NumberNotation.plain.text x)
  | .plain _ (.text t) => .ok t
  | s => s.refuse .text

/-- An unset setting counts as missing. -/
def optional {α : Type} (read : Reader α) : Reader (Option α) := fun s =>
  match s with
  | .plain _ .unset => .ok none
  | s => (read s).map some

end Setting

/-- A section as found: each field by its name or its number, with its path. -/
structure Section where
  field? : Nat → String → Option (String × Setting)

namespace Section

def empty : Section := ⟨fun _ _ => none⟩

/-- The section of that name in a layer; `title` is what it is called when something else stands
in its place. -/
def find (layer : Layer) (name title : String) : Except SettingsProblem Section :=
  match layer.lookup name with
  | none => .ok empty
  | some (.table fields) =>
    .ok ⟨fun _ field => (fields.lookup field).map fun s => (s!"{name}.{field}", s)⟩
  | some (.list _ items) =>
    .ok ⟨fun index _ => items[index]?.map fun s => (s!"{name}[{index}]", s)⟩
  | some (.plain _ value) => .error (.mistypedSection (.ofPlain value) title)

def atKey (key : String) : SettingsProblem → SettingsProblem
  | .mistyped found expected _ origin => .mistyped found expected (some key) origin
  | problem => problem

def get {α : Type} (part : Section) (read : Setting.Reader α) (index : Nat) (name : String)
    (fallback : α) : Except SettingsProblem α :=
  match part.field? index name with
  | none => .ok fallback
  | some (key, s) => (read s).mapError (atKey key)

end Section

end Crossover
