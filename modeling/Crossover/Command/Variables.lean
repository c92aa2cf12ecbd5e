import Crossover.Settings.Layer
import Crossover.Text.Alphanumeric
import Crossover.Text.Blank
import Crossover.Text.Mark

/-!
# Variable files

A variable file holds one `NAME=value` a line; a line goes on while a quote is open or a blank or
a backslash ends it. Blank lines and comments are passed over, and `export` may stand in front of
a name. A value is made of bare and quoted parts, with escapes outside single quotes; after a
blank only a comment may follow. A `$` and a word, or a name in braces, stand for the value of
that variable, and the character after such a word is taken as it is. A variable that is set
already keeps its value, and the first bad line ends the reading.

Lines and values are read by different rules, so that a quote may be open for the one and not for
the other.
-/

namespace Crossover.VariableFile

def isBlank (c : Char) : Bool := c == ' ' || c == '\t'

/-! ## Lines -/

inductive Place
  | bare
  | escaped
  | blank
  | quoted (mark : Char)
  | quotedEscape (mark : Char)
deriving DecidableEq, Repr

namespace Place

def afterPlain (c : Char) : Place :=
  if c = '\\' then .escaped
  else if c = '"' ∨ c = '\'' then .quoted c
  else .bare

def after (c : Char) : Place → Place
  | .bare => if Text.isBlank c && c != '\n' && c != '\r' then .blank else afterPlain c
  | .escaped => .bare
  | .blank => afterPlain c
  | .quoted mark =>
    if c = '\\' then .quotedEscape mark else if c = mark then .bare else .quoted mark
  | .quotedEscape mark => .quoted mark

/-- Follows the characters of a line up to a comment, which only a blank can stand before: where
they end, unless it is in a comment, and the characters before the comment. -/
def follow : Place → List Char → Option Place × List Char
  | place, [] => (some place, [])
  | place, c :: rest =>
    if place = .blank ∧ c = '#' then (none, [])
    else
      let (last, kept) := follow (place.after c) rest
      (last, c :: kept)

end Place

def withoutEnd (line : List Char) : List Char :=
  match line.reverse with
  | '\n' :: '\r' :: rest => rest.reverse
  | '\n' :: rest => rest.reverse
  | _ => line

def lines : List Char → List (List Char)
  | [] => []
  | c :: rest =>
    if c = '\n' then [c] :: lines rest
    else match lines rest with
      | [] => [[c]]
      | line :: more => (c :: line) :: more

/-- Joins lines that go on; a line that goes on at the end of the file counts as broken. -/
def joined : (begun : List Char) → Place → List (List Char) → List (Option (List Char))
  | _, place, [] => if place = .bare then [] else [none]
  | begun, place, line :: rest =>
    if (Text.trimStart (begun ++ line)).head? = some '#' then joined [] .bare rest
    else match place.follow line with
      | (none, kept) => some (begun ++ kept) :: joined [] .bare rest
      | (some .bare, _) => some (withoutEnd (begun ++ line)) :: joined [] .bare rest
      | (some place, _) => joined (begun ++ line) place rest

/-! ## Names -/

def isNameStart (c : Char) : Bool := c.isAlpha || c == '_'

def isNameChar (c : Char) : Bool := c.isAlphanum || c == '_' || c == '.'

def skipBlanks (cs : List Char) : List Char := cs.dropWhile Text.isBlank

def name? (cs : List Char) : Option (String × List Char) :=
  match cs with
  | c :: _ =>
    if isNameStart c then
      some (String.ofList (cs.takeWhile isNameChar), skipBlanks (cs.dropWhile isNameChar))
    else none
  | [] => none

def afterEquals? : List Char → Option (List Char)
  | '=' :: rest => some rest
  | _ => none

def assignment? (cs : List Char) : Option (String × List Char) := do
  let (name, rest) ← name? cs
  match afterEquals? rest with
  | some value => some (name, value)
  | none =>
    if name = "export" then
      let (name, rest) ← name? rest
      let value ← afterEquals? rest
      some (name, value)
    else none

/-! ## Values -/

inductive Quote
  | bare
  | single
  | double
deriving DecidableEq, Repr

/-- What the next character of a value belongs to; names are given last character first. -/
inductive Part
  | text
  | escape
  | word (name : List Char)
  | braces (name : List Char)
  | ended
deriving DecidableEq, Repr

/-- A value as far as it has been read, last character first. -/
structure Value where
  quote : Quote
  part : Part
  read : List Char

namespace Value

def start : Value := ⟨.bare, .text, []⟩

def push (c : Char) (v : Value) : Value := { v with part := .text, read := c :: v.read }

/-- Puts the value of a variable, or nothing if it is not set. -/
def substitute (env : Environment) (name : List Char) (v : Value) : Value :=
  let value := (env.lookup (String.ofList name.reverse)).getD ""
  { v with part := .text, read := value.toList.reverse ++ v.read }

def unescape? (c : Char) (v : Value) : Option Value :=
  if c = 'n' then some (v.push '\n')
  else if ['\\', '\'', '"', '$', ' '].contains c then some (v.push c)
  else none

def take (c : Char) (v : Value) : Value :=
  match v.quote with
  | .single => if c = '\'' then { v with quote := .bare } else v.push c
  | .double =>
    if c = '$' then { v with part := .word [] }
    else if c = '"' then { v with quote := .bare }
    else if c = '\\' then { v with part := .escape }
    else v.push c
  | .bare =>
    if c = '$' then { v with part := .word [] }
    else if c = '\'' then { v with quote := .single }
    else if c = '"' then { v with quote := .double }
    else if c = '\\' then { v with part := .escape }
    else if isBlank c then { v with part := .ended }
    else v.push c

def takeInWord (env : Environment) (name : List Char) (c : Char) (v : Value) : Value :=
  if Text.isAlphanumeric c then { v with part := .word (c :: name) }
  else if c = '\x7b' ∧ name = [] then { v with part := .braces [] }
  else
    let v := v.substitute env name
    if c = '$' then { v with part := .word [] } else v.push c

def finish? (env : Environment) (v : Value) : Option String :=
  match v.part, v.quote with
  | .braces _, _ => none
  | .word name, .bare => some (String.ofList (v.substitute env name).read.reverse)
  | _, .bare => some (String.ofList v.read.reverse)
  | _, _ => none

def readFrom? (env : Environment) : Value → List Char → Option String
  | v, [] => v.finish? env
  | v, c :: rest =>
    match v.part with
    | .ended =>
      if isBlank c then readFrom? env v rest
      else if c = '#' then v.finish? env
      else none
    | .escape => do
      let v ← v.unescape? c
      readFrom? env v rest
    | .word name => readFrom? env (v.takeInWord env name c) rest
    | .braces name =>
      if c = '\x7d' then readFrom? env (v.substitute env name) rest
      else readFrom? env { v with part := .braces (c :: name) } rest
    | .text => readFrom? env (v.take c) rest

end Value

/-! ## Files -/

inductive Line
  | nothing
  | bad
  | set (name value : String)

def line (env : Environment) (cs : List Char) : Line :=
  let cs := Text.trim cs
  if cs.isEmpty || cs.head? == some '#' then .nothing
  else match assignment? cs with
    | none => .bad
    | some (name, rest) =>
      let rest := skipBlanks rest
      if rest.head? == some '#' then .set name ""
      else match Value.start.readFrom? env rest with
        | some value => .set name value
        | none => .bad

def addLines : List (Option (List Char)) → Environment → Environment
  | [], env => env
  | none :: _, env => env
  | some cs :: rest, env =>
    match line env cs with
    | .nothing => addLines rest env
    | .bad => env
    | .set name value =>
      addLines rest (if (env.lookup name).isSome then env else env ++ [(name, value)])

def add (text : String) (env : Environment) : Environment :=
  addLines (joined [] .bare (lines (Text.withoutMark text.toList))) env

end Crossover.VariableFile
