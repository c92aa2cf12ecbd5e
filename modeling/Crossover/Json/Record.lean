import Crossover.Json.Value

/-!
# Records in JSON texts

A record is described once, by its name, its fields in order, and how it is put together from
them; the description gives the reader and the writer. A record is read from an object, where
fields come in any order, unknown ones are passed over, no known one may come twice, and one that
is missing takes its fallback if it has one; or from a list of the fields in order, of which only
those with a fallback may be left out at the end. It is written as an object of the fields that
are not hidden. An alternative is read from its name, as a string or as the only key of an object
that holds null.
-/

namespace Crossover.Json

structure Field where
  name : String
  α : Type
  read : Reader α
  write : α → List Char
  fallback : Option α
  isHidden : Bool

/-- One value for each field. -/
def Values : List Field → Type
  | [] => Unit
  | f :: fs => f.α × Values fs

/-- The values read so far. -/
def Slots : List Field → Type
  | [] => Unit
  | f :: fs => Option f.α × Slots fs

structure Record (ρ : Type) where
  name : String
  fields : List Field
  ofValues : Values fields → ρ
  toValues : ρ → Values fields

namespace Record

def noSlots : (fs : List Field) → Slots fs
  | [] => ()
  | _ :: fs => (none, noSlots fs)

/-- What became of a key: unknown, known but filled already, or filled now. -/
inductive Filled (fs : List Field)
  | unknown
  | twice
  | filled (slots : Slots fs) (c : Cursor)

def fill (levels : Nat) (key : String) (c : Cursor) :
    (fs : List Field) → Slots fs → Except Error (Filled fs)
  | [], () => .ok .unknown
  | f :: fs, (slot, slots) =>
    if f.name = key then
      match slot with
      | some _ => .ok .twice
      | none => do
        let c ← c.colon
        let (a, c) ← f.read levels c
        return .filled (some a, slots) c
    else do
      match ← fill levels key c fs slots with
      | .unknown => return .unknown
      | .twice => return .twice
      | .filled slots c => return .filled (slot, slots) c

/-- The place where an object is left when a key in it is refused. -/
def refusedAt (c : Cursor) : Place :=
  let c := c.skipBlanks
  match c.rest with
  | '\x7d' :: _ => c.advance.place
  | _ => c.place

/-- The fields of an object up to its closing brace, which is not read. -/
def readFields (fs : List Field) (levels : Nat) :
    (fuel : Nat) → (first : Bool) → Slots fs → Cursor → Except Error (Slots fs × Cursor)
  | 0, _, _, c => c.fail .endInObject
  | fuel + 1, first, slots, c => do
    let (more, c) ← c.moreKeys first
    if more then
      let (key, c) ← c.advance.string
      match ← fill levels key c fs slots with
      | .unknown =>
        let c ← c.colon
        let c ← c.skip1
        readFields fs levels fuel false slots c
      | .twice => .error ⟨.data s!"duplicate field `{key}`", refusedAt c⟩
      | .filled slots c => readFields fs levels fuel false slots c
    else return (slots, c)

/-- The values of the slots with the fallbacks put in, or the first name that is missing. -/
def complete : (fs : List Field) → Slots fs → Except String (Values fs)
  | [], () => .ok ()
  | f :: fs, (slot, slots) =>
    match slot <|> f.fallback with
    | none => .error f.name
    | some a => (complete fs slots).map (a, ·)

def readObject {ρ : Type} (r : Record ρ) (levels : Nat) (c : Cursor) :
    Except Error (ρ × Cursor) := do
  let (slots, c) ← readFields r.fields levels (c.rest.length + 1) true (noSlots r.fields) c
  let c := c.advance
  match complete r.fields slots with
  | .ok values => return (r.ofValues values, c)
  | .error name => c.fail (.data s!"missing field `{name}`")

/-- The fields of a list in order; `done` counts those before. -/
def readInOrder (levels : Nat) (lengthProblem : Nat → Problem) :
    (fs : List Field) → (done : Nat) → (first : Bool) → Cursor →
      Except Error (Values fs × Cursor)
  | [], _, _, c => .ok ((), c)
  | f :: fs, done, first, c => do
    let (more, c) ← c.moreElements first
    if more then
      let (a, c) ← f.read levels c
      let (rest, c) ← readInOrder levels lengthProblem fs (done + 1) false c
      return ((a, rest), c)
    else match f.fallback with
      | some a =>
        let (rest, c) ← readInOrder levels lengthProblem fs (done + 1) first c
        return ((a, rest), c)
      | none => c.advance.fail (lengthProblem done)

def lengthProblem {ρ : Type} (r : Record ρ) (done : Nat) : Problem :=
  let n := r.fields.length
  let elements := if n = 1 then "1 element" else s!"{n} elements"
  .data s!"invalid length {done}, expected struct {r.name} with {elements}"

def readList {ρ : Type} (r : Record ρ) (levels : Nat) (c : Cursor) :
    Except Error (ρ × Cursor) := do
  let (values, c) ← readInOrder levels r.lengthProblem r.fields 0 true c
  let c ← c.closeList
  return (r.ofValues values, c)

def read {ρ : Type} (r : Record ρ) : Reader ρ := fun levels c =>
  let c := c.skipBlanks
  match c.rest with
  | '[' :: _ => c.nested levels r.readList
  | '\x7b' :: _ => c.nested levels r.readObject
  | _ => c.refuse s!"struct {r.name}"

def fieldTexts : (fs : List Field) → Values fs → List (String × List Char)
  | [], () => []
  | f :: fs, (a, rest) =>
    if f.isHidden then fieldTexts fs rest else (f.name, f.write a) :: fieldTexts fs rest

def text {ρ : Type} (r : Record ρ) (a : ρ) : List Char :=
  objectText (fieldTexts r.fields (r.toValues a))

end Record

namespace Reader

def alternatives (names : List String) : String :=
  " or ".intercalate (names.map fun n => s!"`{n}`")

def alternativeName {α : Type} (cases : List (String × α)) (c : Cursor) :
    Except Error (α × Cursor) := do
  let c := c.skipBlanks
  match c.rest with
  | '"' :: _ =>
    let (name, c) ← c.advance.string
    match cases.lookup name with
    | some a => return (a, c)
    | none =>
      c.fail (.data s!"unknown variant `{name}`, expected {alternatives (cases.map Prod.fst)}")
  | _ => c.refuse "variant identifier"

def alternative {α : Type} (cases : List (String × α)) : Reader α := fun levels c =>
  let c := c.skipBlanks
  match c.rest with
  | [] => c.fail .endInValue
  | '"' :: _ => alternativeName cases c
  | '\x7b' :: _ =>
    c.nested levels fun levels c => do
      let (a, c) ← alternativeName cases c
      let c ← c.colon
      let ((), c) ← Reader.unit levels c
      let c := c.skipBlanks
      match c.rest with
      | [] => c.fail .endInObject
      | '\x7d' :: _ => return (a, c.advance)
      | _ => c.fail .expectedValue
  | _ => c.failNext .expectedValue

end Reader

end Crossover.Json
