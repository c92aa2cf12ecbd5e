/-!
# Cursors in JSON texts

A cursor is the rest of a text with the place reached: the line, from one, and the number of
bytes of that line already read. An error carries a place. Errors about the next character
count it as read; errors about what has been read do not look ahead.
-/

namespace Crossover.Json

structure Place where
  line : Nat
  column : Nat
deriving DecidableEq, Repr

inductive Problem
  | endInValue
  | endInList
  | endInObject
  | endInString
  | expectedValue
  | expectedIdent
  | expectedListCommaOrEnd
  | expectedObjectCommaOrEnd
  | expectedColon
  | keyMustBeString
  | trailingComma
  | trailingCharacters
  | invalidNumber
  | numberOutOfRange
  | invalidEscape
  | endOfHexEscape
  | loneSurrogate
  | controlCharacter
  | recursionLimit
  | data (message : String)
deriving DecidableEq, Repr

def Problem.message : Problem → String
  | .endInValue => "EOF while parsing a value"
  | .endInList => "EOF while parsing a list"
  | .endInObject => "EOF while parsing an object"
  | .endInString => "EOF while parsing a string"
  | .expectedValue => "expected value"
  | .expectedIdent => "expected ident"
  | .expectedListCommaOrEnd => "expected `,` or `]`"
  | .expectedObjectCommaOrEnd => "expected `,` or `\x7d`"
  | .expectedColon => "expected `:`"
  | .keyMustBeString => "key must be a string"
  | .trailingComma => "trailing comma"
  | .trailingCharacters => "trailing characters"
  | .invalidNumber => "invalid number"
  | .numberOutOfRange => "number out of range"
  | .invalidEscape => "invalid escape"
  | .endOfHexEscape => "unexpected end of hex escape"
  | .loneSurrogate => "lone leading surrogate in hex escape"
  | .controlCharacter => "control character (\\u0000-\\u001F) found while parsing a string"
  | .recursionLimit => "recursion limit exceeded"
  | .data message => message

structure Error where
  problem : Problem
  place : Place
deriving DecidableEq, Repr

def Error.message (e : Error) : String :=
  s!"{e.problem.message} at line {e.place.line} column {e.place.column}"

structure Cursor where
  rest : List Char
  place : Place
deriving Repr

/-- A reader may open that many brackets inside each other; `levels` counts those still left. -/
abbrev Reader (α : Type) := (levels : Nat) → Cursor → Except Error (α × Cursor)

def allLevels : Nat := 127

namespace Place

def after (p : Place) (c : Char) : Place :=
  if c = '\n' then ⟨p.line + 1, 0⟩ else ⟨p.line, p.column + c.utf8Size⟩

/-- The place after the next byte of a text, or after its end. -/
def afterByte (p : Place) : List Char → Place
  | [] => p
  | c :: _ => if c = '\n' then ⟨p.line + 1, 0⟩ else ⟨p.line, p.column + 1⟩

/-- The place after that many bytes; the last of them may be inside a character. -/
def afterBytes (p : Place) : Nat → List Char → Place
  | _, [] => p
  | n, c :: rest =>
    if n ≤ c.utf8Size then
      if c = '\n' then p.after c else ⟨p.line, p.column + n⟩
    else (p.after c).afterBytes (n - c.utf8Size) rest

end Place

namespace Cursor

def start (text : List Char) : Cursor := ⟨text, 1, 0⟩

def advance (c : Cursor) : Cursor :=
  match c.rest with
  | [] => c
  | ch :: rest => ⟨rest, c.place.after ch⟩

def skip (c : Cursor) (chars : List Char) : Cursor :=
  ⟨c.rest.drop chars.length, chars.foldl Place.after c.place⟩

def fail {α : Type} (c : Cursor) (problem : Problem) : Except Error α :=
  .error ⟨problem, c.place⟩

def failNext {α : Type} (c : Cursor) (problem : Problem) : Except Error α :=
  .error ⟨problem, c.place.afterByte c.rest⟩

def isBlank (c : Char) : Bool :=
  c == ' ' || c == '\n' || c == '\t' || c == '\r'

def skipBlanks (c : Cursor) : Cursor :=
  go c.rest c.place
where
  go : List Char → Place → Cursor
    | [], p => ⟨[], p⟩
    | ch :: rest, p => if isBlank ch then go rest (p.after ch) else ⟨ch :: rest, p⟩

def word : List Char → Cursor → Except Error Cursor
  | [], c => .ok c
  | expected :: more, c =>
    match c.rest with
    | [] => c.fail .endInValue
    | ch :: _ => if ch = expected then word more c.advance else c.failNext .expectedIdent

end Cursor

end Crossover.Json
