import Crossover.Json.Lexeme
import Crossover.Json.Write
import Crossover.Text.Quoted

/-!
# JSON values

Values of any shape, and the readers from which typed ones are built. A reader that meets the
wrong kind of value reads the scalar, or looks at the bracket, and says what it found and what it
expected. Fields of an object are kept in the order of their names; of two fields with one name
the later one counts. A value that nobody wants is passed over: its brackets are not counted,
and its numbers may have any size.
-/

namespace Crossover.Json

inductive Value
  | null
  | bool (b : Bool)
  | number (n : Number)
  | string (s : String)
  | list (items : List Value)
  | object (fields : List (String × Value))

instance : Inhabited Value := ⟨.null⟩

def Number.describe : Number → String
  | .natural n => s!"integer `{n}`"
  | .negative n => s!"integer `-{n}`"
  | .real x => s!"floating point `{NumberNotation.json.text x}`"

def invalidType (found expected : String) : Problem :=
  .data s!"invalid type: {found}, expected {expected}"

namespace Cursor

/-- Reads the scalar at the cursor, or looks at the bracket, and refuses it. -/
def refuse {α : Type} (expected : String) (c : Cursor) : Except Error α :=
  match c.rest with
  | [] => c.fail .endInValue
  | ch :: _ => do
    if ch = 'n' then
      let c ← word ['u', 'l', 'l'] c.advance
      c.fail (invalidType "null" expected)
    else if ch = 't' then
      let c ← word ['r', 'u', 'e'] c.advance
      c.fail (invalidType "boolean `true`" expected)
    else if ch = 'f' then
      let c ← word ['a', 'l', 's', 'e'] c.advance
      c.fail (invalidType "boolean `false`" expected)
    else if ch = '-' ∨ ch.isDigit then
      let (n, c) ← number c
      c.fail (invalidType n.describe expected)
    else if ch = '"' then
      let (s, c) ← string c.advance
      c.fail (invalidType ("string " ++ Text.quoted s) expected)
    else if ch = '[' then c.fail (invalidType "sequence" expected)
    else if ch = '\x7b' then c.fail (invalidType "map" expected)
    else c.failNext .expectedValue

/-- Whether another element follows, at its first character if so. -/
def moreElements (first : Bool) (c : Cursor) : Except Error (Bool × Cursor) :=
  let c := c.skipBlanks
  match c.rest with
  | [] => c.fail .endInList
  | ch :: _ =>
    if ch = ']' then .ok (false, c)
    else if first then .ok (true, c)
    else if ch = ',' then
      let c := c.advance.skipBlanks
      match c.rest with
      | [] => c.fail .endInValue
      | ch :: _ => if ch = ']' then c.failNext .trailingComma else .ok (true, c)
    else c.failNext .expectedListCommaOrEnd

def closeList (c : Cursor) : Except Error Cursor :=
  let c := c.skipBlanks
  match c.rest with
  | [] => c.fail .endInList
  | ch :: _ =>
    if ch = ']' then .ok c.advance
    else if ch = ',' then
      let c := c.advance.skipBlanks
      match c.rest with
      | ']' :: _ => c.failNext .trailingComma
      | _ => c.failNext .trailingCharacters
    else c.failNext .trailingCharacters

/-- The elements from here to the closing bracket, which is read too. -/
def elements {α : Type} (item : Cursor → Except Error (α × Cursor)) :
    (fuel : Nat) → (first : Bool) → (read : List α) → Cursor → Except Error (List α × Cursor)
  | 0, _, _, c => c.fail .endInList
  | fuel + 1, first, read, c => do
    let (more, c) ← moreElements first c
    if more then
      let (a, c) ← item c
      elements item fuel false (a :: read) c
    else
      let c ← closeList c
      return (read.reverse, c)

/-- Whether another key follows, at its opening quote if so. -/
def moreKeys (first : Bool) (c : Cursor) : Except Error (Bool × Cursor) :=
  let c := c.skipBlanks
  match c.rest with
  | [] => c.fail .endInObject
  | ch :: _ =>
    if ch = '\x7d' then .ok (false, c)
    else if first then
      if ch = '"' then .ok (true, c) else c.failNext .keyMustBeString
    else if ch = ',' then
      let c := c.advance.skipBlanks
      match c.rest with
      | [] => c.fail .endInValue
      | ch :: _ =>
        if ch = '"' then .ok (true, c)
        else if ch = '\x7d' then c.failNext .trailingComma
        else c.failNext .keyMustBeString
    else c.failNext .expectedObjectCommaOrEnd

def colon (c : Cursor) : Except Error Cursor :=
  let c := c.skipBlanks
  match c.rest with
  | [] => c.fail .endInObject
  | ch :: _ => if ch = ':' then .ok c.advance else c.failNext .expectedColon

/-- Keys and values from here to the closing brace, which is read too, last first. -/
def members {α : Type} (item : Cursor → Except Error (α × Cursor)) :
    (fuel : Nat) → (first : Bool) → (read : List (String × α)) → Cursor →
      Except Error (List (String × α) × Cursor)
  | 0, _, _, c => c.fail .endInObject
  | fuel + 1, first, read, c => do
    let (more, c) ← moreKeys first c
    if more then
      let (key, c) ← string c.advance
      let c ← colon c
      let (a, c) ← item c
      members item fuel false ((key, a) :: read) c
    else return (read, c.advance)

def nested {α : Type} (levels : Nat) (c : Cursor)
    (inside : Nat → Cursor → Except Error (α × Cursor)) : Except Error (α × Cursor) :=
  match levels with
  | 0 => c.failNext .recursionLimit
  | levels + 1 => inside levels c.advance

/-- One step of passing over a value: a value is due, or what follows one inside a bracket. -/
inductive Skipping
  | value
  | inside (acceptComma : Bool)

/-- Passes over a value. The brackets still open are listed innermost first, an object as
true. -/
def skipValue : (fuel : Nat) → Skipping → List Bool → Cursor → Except Error Cursor
  | 0, _, _, c => c.fail .endInValue
  | fuel + 1, .value, frames, c =>
    let c := c.skipBlanks
    match c.rest with
    | [] => c.fail .endInValue
    | ch :: _ => do
      if ch = '[' ∨ ch = '\x7b' then
        skipValue fuel (.inside false) ((ch == '\x7b') :: frames) c.advance
      else
        let c ←
          if ch = 'n' then word ['u', 'l', 'l'] c.advance
          else if ch = 't' then word ['r', 'u', 'e'] c.advance
          else if ch = 'f' then word ['a', 'l', 's', 'e'] c.advance
          else if ch = '-' ∨ ch.isDigit then skipNumber c
          else if ch = '"' then skipString (c.rest.length + 1) c.advance
          else c.failNext .expectedValue
        skipValue fuel (.inside true) frames c
  | _, .inside _, [], c => .ok c
  | fuel + 1, .inside acceptComma, isObject :: frames, c => do
    let c := c.skipBlanks
    let close := if isObject then '\x7d' else ']'
    match c.rest with
    | [] => c.fail (if isObject then .endInObject else .endInList)
    | ch :: _ =>
      if ch = close then skipValue fuel (.inside true) frames c.advance
      else if acceptComma && ch != ',' then
        c.failNext (if isObject then .expectedObjectCommaOrEnd else .expectedListCommaOrEnd)
      else
        let c := if acceptComma then c.advance else c
        if isObject then
          let c := c.skipBlanks
          match c.rest with
          | [] => c.fail .endInObject
          | ch :: _ =>
            if ch = '"' then
              let c ← skipString (c.rest.length + 1) c.advance
              let c ← colon c
              skipValue fuel .value (isObject :: frames) c
            else c.failNext .keyMustBeString
        else skipValue fuel .value (isObject :: frames) c

def skip1 (c : Cursor) : Except Error Cursor :=
  skipValue (2 * c.rest.length + 2) .value [] c

def finish (c : Cursor) : Except Error Unit :=
  let c := c.skipBlanks
  if c.rest.isEmpty then .ok () else c.failNext .trailingCharacters

end Cursor

def Reader.run {α : Type} (r : Reader α) (text : List Char) : Except Error α := do
  let (a, c) ← r allLevels (.start text)
  c.finish
  return a

namespace Reader

def text : Reader String := fun _ c =>
  let c := c.skipBlanks
  match c.rest with
  | '"' :: _ => c.advance.string
  | _ => c.refuse "a string"

def float : Reader Float := fun _ c =>
  let c := c.skipBlanks
  match c.rest with
  | [] => c.fail .endInValue
  | ch :: _ => do
    if ch = '-' ∨ ch.isDigit then
      let (n, c) ← c.number
      return (n.toFloat, c)
    else c.refuse "f64"

def list {α : Type} (item : Reader α) : Reader (List α) := fun levels c =>
  let c := c.skipBlanks
  match c.rest with
  | '[' :: _ =>
    c.nested levels fun levels c => c.elements (item levels) (c.rest.length + 1) true []
  | _ => c.refuse "a sequence"

def nullable {α : Type} (item : Reader α) : Reader (Option α) := fun levels c =>
  let c := c.skipBlanks
  match c.rest with
  | 'n' :: _ => do
    let c ← Cursor.word ['u', 'l', 'l'] c.advance
    return (none, c)
  | _ => do
    let (a, c) ← item levels c
    return (some a, c)

def unit : Reader Unit := fun _ c =>
  let c := c.skipBlanks
  match c.rest with
  | 'n' :: _ => do
    let c ← Cursor.word ['u', 'l', 'l'] c.advance
    return ((), c)
  | _ => c.refuse "unit"

end Reader

namespace Value

def insertField (key : String) (v : Value) : List (String × Value) → List (String × Value)
  | [] => [(key, v)]
  | (k, w) :: rest =>
    if key = k then (key, v) :: rest
    else if key < k then (key, v) :: (k, w) :: rest
    else (k, w) :: insertField key v rest

/-- The fields in the order of their names; later ones replace earlier ones. -/
def sortFields (fields : List (String × Value)) : List (String × Value) :=
  fields.foldl (fun sorted f => insertField f.1 f.2 sorted) []

def read : Reader Value := fun levels => go levels
where
  go : (levels : Nat) → Cursor → Except Error (Value × Cursor)
    | levels, c =>
      let c := c.skipBlanks
      match c.rest with
      | [] => c.fail .endInValue
      | ch :: _ => do
        if ch = 'n' then
          let c ← Cursor.word ['u', 'l', 'l'] c.advance
          return (.null, c)
        else if ch = 't' then
          let c ← Cursor.word ['r', 'u', 'e'] c.advance
          return (.bool true, c)
        else if ch = 'f' then
          let c ← Cursor.word ['a', 'l', 's', 'e'] c.advance
          return (.bool false, c)
        else if ch = '-' ∨ ch.isDigit then
          let (n, c) ← c.number
          return (.number n, c)
        else if ch = '"' then
          let (s, c) ← c.advance.string
          return (.string s, c)
        else if ch = '[' then
          match levels with
          | 0 => c.failNext .recursionLimit
          | levels + 1 =>
            let (vs, c) ← c.advance.elements (go levels) (c.rest.length + 1) true []
            return (.list vs, c)
        else if ch = '\x7b' then
          match levels with
          | 0 => c.failNext .recursionLimit
          | levels + 1 =>
            let (fs, c) ← c.advance.members (go levels) (c.rest.length + 1) true []
            return (.object (sortFields fs.reverse), c)
        else c.failNext .expectedValue

def numberText : Number → List Char
  | .natural n => Nat.toDigits 10 n
  | .negative n => '-' :: Nat.toDigits 10 n
  | .real x => floatText x

mutual

def text : Value → List Char
  | .null => ['n', 'u', 'l', 'l']
  | .bool true => ['t', 'r', 'u', 'e']
  | .bool false => ['f', 'a', 'l', 's', 'e']
  | .number n => numberText n
  | .string s => stringText s
  | .list items => listText (texts items)
  | .object fields => objectText (fieldTexts fields)

def texts : List Value → List (List Char)
  | [] => []
  | v :: rest => text v :: texts rest

def fieldTexts : List (String × Value) → List (String × List Char)
  | [] => []
  | (key, v) :: rest => (key, text v) :: fieldTexts rest

end

end Value

end Crossover.Json
