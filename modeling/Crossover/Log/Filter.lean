import Crossover.Log.Event
import Crossover.Log.Pattern

/-!
# Log filters

A filter is a list of directives between commas. A directive is a level, a target, or a target
and a level; a target is the start of the source of an event, and may be followed by the names of
data an event must have, or by a span or the value of a datum, in which case no event of this
program is meant. The most specific directive that applies to an event decides by its level. A
filter without directives lets errors through.

Positions in a directive count bytes, and do so without the blanks in front of it; but its parts
are cut out with them.
-/

namespace Crossover.Log

/-- The most verbose rank let through; zero lets nothing through. -/
abbrev Ceiling := Nat

namespace Ceiling

def names : List (String × Ceiling) :=
  [("error", 1), ("warn", 2), ("info", 3), ("debug", 4), ("trace", 5), ("off", 0)]

def most : Ceiling := 5

/-- A level by its name in any case, or by its rank; the empty text is `error`. -/
def read? (cs : List Char) : Option Ceiling :=
  match NumberText.natural? most cs with
  | some n => some n
  | none =>
    if cs.isEmpty then some 1 else names.lookup (String.ofList (cs.map Char.toLower))

end Ceiling

structure Directive where
  target : Option String
  /-- Whether a span or a value is asked for, which no event has. -/
  isDynamic : Bool
  /-- The data an event must have. -/
  data : List String
  ceiling : Ceiling

inductive FilterProblem
  | invalid
  | level
  /-- A datum is asked for by a text that is no pattern. -/
  | pattern (reason : Pattern.Unusable)
deriving DecidableEq, Repr

def FilterProblem.chain : FilterProblem → List String
  | .invalid => ["invalid filter directive"]
  | .level =>
    let text := "error parsing level filter: expected one of \"off\", \"error\", \"warn\", " ++
      "\"info\", \"debug\", \"trace\", or a number 0-5"
    [text, text]
  | .pattern reason =>
    let texts := reason.chain
    ("invalid field filter: " ++ texts.headD "") :: texts

namespace Directive

inductive Part
  | start
  | levelOrTarget (start : Nat)
  | span (start : Nat)
  | field (start : Nat)
  | fields
  | afterTarget
  | level (start : Nat)

structure Progress where
  part : Part
  directive : Directive

def blank : Directive := ⟨none, false, [], Ceiling.most⟩

def dropBytes : Nat → List Char → List Char
  | _, [] => []
  | n, c :: rest => if n = 0 then c :: rest else dropBytes (n - c.utf8Size) rest

def takeBytes : Nat → List Char → List Char
  | _, [] => []
  | n, c :: rest => if n = 0 then [] else c :: takeBytes (n - c.utf8Size) rest

def cut (whole : List Char) (start stop : Nat) : List Char :=
  dropBytes start (takeBytes stop whole)

/-- A value a datum may have: a switch, a number, or else a pattern for its text. -/
def checkValue (cs : List Char) : Except FilterProblem Unit :=
  if ["true", "false"].contains (String.ofList cs) || (NumberText.float? cs).isSome then .ok ()
  else (Pattern.check cs).mapError .pattern

/-- A datum to ask for: a name, or a name and a value up to a second equals sign. -/
def withDatum (cs : List Char) (d : Directive) : Except FilterProblem Directive :=
  if cs.isEmpty then .error .invalid
  else
    let asked := { d with data := d.data ++ [String.ofList (cs.takeWhile (· != '='))] }
    match cs.dropWhile (· != '=') with
    | [] => .ok asked
    | _ :: value =>
      (checkValue (value.takeWhile (· != '='))).map fun _ => { asked with isDynamic := true }

def canStart (c : Char) : Bool :=
  c == '-' || c == ':' || c == '_' || Text.isAlphanumeric c

def advance (whole : List Char) (i : Nat) (c : Char) (p : Progress) :
    Except FilterProblem Progress :=
  let d := p.directive
  let upTo (start : Nat) := cut whole start i
  match p.part with
  | .start =>
    if c = '[' then .ok ⟨.span (i + 1), d⟩
    else if canStart c then .ok ⟨.levelOrTarget i, d⟩
    else .error .invalid
  | .levelOrTarget start =>
    let targeted := { d with target := some (String.ofList (upTo start)) }
    if c = '=' then .ok ⟨.level (i + 1), targeted⟩
    else if c = '[' then .ok ⟨.span (i + 1), targeted⟩
    else .ok p
  | .span start =>
    if c = ']' then .ok ⟨.afterTarget, { d with isDynamic := true }⟩
    else if c = '\x7b' then
      .ok ⟨.field (i + 1), { d with isDynamic := d.isDynamic || !(upTo start).isEmpty }⟩
    else .ok p
  | .field start =>
    if c = '\x7d' then (withDatum (upTo start) d).map (⟨.fields, ·⟩) else .ok p
  | .fields => if c = ']' then .ok ⟨.afterTarget, d⟩ else .error .invalid
  | .afterTarget => if c = '=' then .ok ⟨.level (i + 1), d⟩ else .error .invalid
  | .level _ => .ok p

def advanceAll (whole : List Char) : Nat → List Char → Progress → Except FilterProblem Progress
  | _, [], p => .ok p
  | i, c :: rest, p => do
    let p ← advance whole i c p
    advanceAll whole (i + c.utf8Size) rest p

/-- What is left at the end is a level if it reads as one, else a target. -/
def finish (whole : List Char) (p : Progress) : Except FilterProblem Directive :=
  let d := p.directive
  match p.part with
  | .levelOrTarget start =>
    let cs := dropBytes start whole
    match Ceiling.read? cs with
    | some ceiling => .ok { d with ceiling := ceiling }
    | none => .ok { d with target := some (String.ofList cs) }
  | .level start =>
    let cs := dropBytes start whole
    if cs.isEmpty then .ok d
    else match Ceiling.read? cs with
      | some ceiling => .ok { d with ceiling := ceiling }
      | none => .error .level
  | .afterTarget => .ok d
  | _ => .error .invalid

def read (text : List Char) : Except FilterProblem Directive := do
  let p ← advanceAll text 0 (Text.trim text) ⟨.start, blank⟩
  finish text p

def applies (d : Directive) (e : Event) : Bool :=
  !d.isDynamic && d.target.all (fun t => t.toList.isPrefixOf e.origin.toList) &&
    d.data.all fun name => name == "message" || (e.data.map Prod.fst).contains name

def reach (d : Directive) : Nat :=
  match d.target with
  | none => 0
  | some t => t.utf8ByteSize + 1

/-- Directives are ranked by the length of their targets, then by how many data they ask for,
then by the targets and the names themselves. -/
def rank (a b : Directive) : Ordering :=
  (compare a.reach b.reach).then
    ((compare a.data.length b.data.length).then
      ((compare (a.target.getD "") (b.target.getD "")).then (compare a.data b.data)))

/-- Whether the first directive ranks at least as high; among equals the later one is kept. -/
def outranks (a b : Directive) : Bool := (rank a b).isGE

end Directive

abbrev Filter := List Directive

namespace Filter

def errorsOnly : Directive := ⟨none, false, [], 1⟩

def read (text : String) : Except FilterProblem Filter := do
  let parts := ((text.splitOn ",").filter (!·.isEmpty)).map String.toList
  let directives ← parts.mapM Directive.read
  return if directives.isEmpty then [errorsOnly] else directives

def deciding? (f : Filter) (e : Event) : Option Directive :=
  (f.filter (·.applies e)).foldl
    (fun best d => match best with
      | none => some d
      | some b => if d.outranks b then some d else some b)
    none

def lets (f : Filter) (e : Event) : Bool :=
  match deciding? f e with
  | none => false
  | some d => e.level.rank ≤ d.ceiling

/-- The filter of the environment if it has a valid one, else the one in the settings. -/
def choose (fromEnvironment : Option String) (level : String) : Except FilterProblem Filter :=
  match fromEnvironment.map read with
  | some (.ok f) => .ok f
  | _ => read level

end Filter

end Crossover.Log
