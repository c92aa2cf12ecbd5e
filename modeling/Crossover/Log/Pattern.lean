import Crossover.Json.Lexeme
import Crossover.Number.Reading
import Crossover.Text.Alphanumeric
import Crossover.Text.Blank

/-!
# Patterns

A directive may ask for a datum whose text matches a pattern. No datum of this program is ever
matched against one, but a directive with a text that is no pattern is refused, and told where the
text goes wrong. So patterns are only checked: groups with names or flags, alternatives,
repetition, bracketed classes and escapes.

A pattern stands between braces and commas and holds neither a comma nor a closing brace, so that
whatever needs one of them is never complete. The letters, digits and blanks of other scripts are
not known here, and neither is their case; what asks for them is refused, but only once the rest
of the pattern has been found right. The same holds for what could match half a character, and,
last of all, for boundaries of words.

Places are counted in characters. In verbose patterns, blanks and comments do not count.
-/

namespace Crossover.Log.Pattern

inductive Problem
  | backreference
  | boundaryUnclosed
  | boundaryUnfinished
  | classUnclosed
  | countInvalid
  | countNotDecimal
  | countUnclosed
  | escapeUnfinished
  | escapeUnknown
  | flagDangling
  | flagRepeated
  | flagUnknown
  | flagsUnfinished
  | groupUnclosed
  | groupUnopened
  | hexDigit
  | hexScalar
  | lookAround
  | nameEmpty
  | nameInvalid
  | nameRepeated
  | nameUnfinished
  | negationRepeated
  | notInClass
  | nothingToRepeat
  | propertyInvalid
  | rangeInvalid
  | rangeNotLiteral
  /-- A letter without regard to case. -/
  | caseUnknown
  /-- A class of characters of any script by its letter. -/
  | classUnknown
  | propertyUnknown
  | propertyForbidden
  | halfCharacter
deriving DecidableEq, Repr

def Problem.message : Problem → String
  | .backreference => "backreferences are not supported"
  | .boundaryUnclosed => "special word boundary assertion is either unclosed or contains an " ++
      "invalid character"
  | .boundaryUnfinished => "found either the beginning of a special word boundary or a bounded " ++
      "repetition on a \\b with an opening brace, but no closing brace"
  | .classUnclosed => "unclosed character class"
  | .countInvalid => "decimal literal invalid"
  | .countNotDecimal => "repetition quantifier expects a valid decimal"
  | .countUnclosed => "unclosed counted repetition"
  | .escapeUnfinished => "incomplete escape sequence, reached end of pattern prematurely"
  | .escapeUnknown => "unrecognized escape sequence"
  | .flagDangling => "dangling flag negation operator"
  | .flagRepeated => "duplicate flag"
  | .flagUnknown => "unrecognized flag"
  | .flagsUnfinished => "expected flag but got end of regex"
  | .groupUnclosed => "unclosed group"
  | .groupUnopened => "unopened group"
  | .hexDigit => "invalid hexadecimal digit"
  | .hexScalar => "hexadecimal literal is not a Unicode scalar value"
  | .lookAround => "look-around, including look-ahead and look-behind, is not supported"
  | .nameEmpty => "empty capture group name"
  | .nameInvalid => "invalid capture group character"
  | .nameRepeated => "duplicate capture group name"
  | .nameUnfinished => "unclosed capture group name"
  | .negationRepeated => "flag negation operator repeated"
  | .notInClass => "invalid escape sequence found in character class"
  | .nothingToRepeat => "repetition operator missing expression"
  | .propertyInvalid => "invalid Unicode character class"
  | .rangeInvalid => "invalid character class range, the start must be <= the end"
  | .rangeNotLiteral => "invalid range boundary, must be a literal"
  | .caseUnknown => "Unicode-aware case insensitivity matching is not available " ++
      "(make sure the unicode-case feature is enabled)"
  | .classUnknown => "Unicode-aware Perl class not found " ++
      "(make sure the unicode-perl feature is enabled)"
  | .propertyUnknown => "Unicode property not found"
  | .propertyForbidden => "Unicode not allowed here"
  | .halfCharacter => "pattern can match invalid UTF-8"

/-- A stretch of a pattern, from its first character to the one after its last. -/
structure Stretch where
  first : Nat
  stop : Nat
deriving DecidableEq, Repr

/-- A problem, where it is, and the earlier place it refers to. -/
structure Refusal where
  problem : Problem
  place : Stretch
  earlier : Option Stretch
deriving DecidableEq, Repr

namespace Refusal

def marks (r : Refusal) (column : Nat) : Bool :=
  (r.place :: r.earlier.toList).any fun s => s.first ≤ column && column < max s.stop (s.first + 1)

def text (r : Refusal) (pattern : List Char) : String :=
  let width := (r.place :: r.earlier.toList).foldl (fun n s => max n (max s.stop (s.first + 1))) 0
  let marked := (List.range width).map fun column => if r.marks column then '^' else ' '
  "regex parse error:\n    " ++ String.ofList pattern ++ "\n    " ++ String.ofList marked ++
    "\nerror: " ++ r.problem.message

end Refusal

structure Flags where
  verbose : Bool
  ignoreCase : Bool
  /-- Whether characters are matched, and not bytes. -/
  unicode : Bool
deriving DecidableEq, Repr

structure Cursor where
  column : Nat
  rest : List Char

abbrev Checked (α : Type) := Except Refusal α

namespace Cursor

def isAtEnd (c : Cursor) : Bool := c.rest.isEmpty

def here (c : Cursor) : Stretch := ⟨c.column, c.column + 1⟩

def between (c : Cursor) : Stretch := ⟨c.column, c.column⟩

def refuse {α : Type} (problem : Problem) (place : Stretch) : Checked α :=
  .error ⟨problem, place, none⟩

def skip (n : Nat) (c : Cursor) : Cursor := ⟨c.column + min n c.rest.length, c.rest.drop n⟩

def blanksFrom : (inComment : Bool) → Nat → List Char → Cursor
  | _, column, [] => ⟨column, []⟩
  | true, column, c :: rest => blanksFrom (c != '\n') (column + 1) rest
  | false, column, c :: rest =>
    if Text.isBlank c then blanksFrom false (column + 1) rest
    else if c = '#' then blanksFrom true (column + 1) rest
    else ⟨column, c :: rest⟩

def skipBlanks (f : Flags) (c : Cursor) : Cursor :=
  if f.verbose then blanksFrom false c.column c.rest else c

/-- Passes over one character and what does not count after it. -/
def next (f : Flags) (c : Cursor) : Cursor := (c.skip 1).skipBlanks f

def startsWith (c : Cursor) (s : String) : Bool := s.toList.isPrefixOf c.rest

end Cursor

/-! ## Escapes -/

inductive AtomKind
  | literal (c : Char)
  /-- A byte that may be no character. -/
  | byte (c : Char)
  | letterClass (negated : Bool)
  | property
  | wordBoundary
  | assertion
deriving DecidableEq, Repr

/-- What a character or an escape stands for, and where it is. -/
structure Atom where
  kind : AtomKind
  place : Stretch

def hexDigits (f : Flags) : Nat → Nat → Cursor → Checked (Nat × Cursor)
  | 0, value, c => .ok (value, c)
  | n + 1, value, c =>
    match c.rest with
    | [] => Cursor.refuse .escapeUnfinished c.between
    | ch :: _ =>
      match Json.Cursor.hexValue? ch with
      | none => Cursor.refuse .hexDigit c.here
      | some digit => hexDigits f n (value * 16 + digit) (c.next f)

/-- A hexadecimal escape in braces, which never close. -/
def hexInBraces (f : Flags) (brace : Nat) : (fuel : Nat) → Cursor → Checked (Atom × Cursor)
  | 0, c => Cursor.refuse .escapeUnfinished ⟨brace, c.column⟩
  | fuel + 1, c =>
    match c.rest with
    | [] => Cursor.refuse .escapeUnfinished ⟨brace, c.column⟩
    | ch :: _ =>
      if (Json.Cursor.hexValue? ch).isNone then Cursor.refuse .hexDigit c.here
      else hexInBraces f brace fuel (c.next f)

def hexEscape (f : Flags) (start digits : Nat) (c : Cursor) : Checked (Atom × Cursor) :=
  if c.rest.head? = some '\x7b' then
    let c' := c.next f
    hexInBraces f c.column (c'.rest.length + 1) c'
  else do
    let (value, c') ← hexDigits f digits 0 c
    if h : value.isValidChar then
      let ch := Char.ofNatAux value h
      let kind := if digits = 2 ∧ 128 ≤ value then AtomKind.byte ch else .literal ch
      return (⟨kind, ⟨start, c'.column⟩⟩, c')
    else Cursor.refuse .hexScalar ⟨c.column, c'.column⟩

/-- A property that began at `start`, after its letter; one in braces is never closed. -/
def propertyEscape (f : Flags) (start : Nat) (c : Cursor) : Checked (Atom × Cursor) :=
  match c.rest with
  | [] => Cursor.refuse .escapeUnfinished c.between
  | ch :: _ =>
    if ch = '\x7b' then
      Cursor.refuse .escapeUnfinished ⟨c.column + c.rest.length, c.column + c.rest.length⟩
    else if ch = '\\' then Cursor.refuse .propertyInvalid c.here
    else
      let c' := c.next f
      .ok (⟨.property, ⟨start, c'.column⟩⟩, c')

def isBoundaryChar (c : Char) : Bool := c.isAlpha || c == '-'

def afterBoundaryName (f : Flags) : (fuel : Nat) → Cursor → Cursor
  | 0, c => c
  | fuel + 1, c =>
    if c.rest.head?.any isBoundaryChar then afterBoundaryName f fuel (c.next f) else c

/-- A boundary of words that began at `start`, after its letter. In braces may follow which one
is meant, but the braces never close; other braces are left for a repetition. -/
def boundaryEscape (f : Flags) (start : Nat) (c : Cursor) : Checked (Atom × Cursor) :=
  let plain := .ok (⟨.wordBoundary, ⟨start, c.column⟩⟩, c)
  if c.rest.head? = some '\x7b' then
    let inside := c.next f
    if inside.isAtEnd then Cursor.refuse .boundaryUnfinished ⟨start, inside.column⟩
    else if inside.rest.head?.any isBoundaryChar then
      let stop := afterBoundaryName f inside.rest.length inside
      Cursor.refuse .boundaryUnclosed ⟨c.column, stop.column⟩
    else plain
  else plain

def controlLetter? (c : Char) : Option Char :=
  match c with
  | 'a' => some '\x07'
  | 'f' => some '\x0c'
  | 't' => some '\t'
  | 'n' => some '\n'
  | 'r' => some '\r'
  | 'v' => some '\x0b'
  | _ => none

def escape (f : Flags) (c : Cursor) : Checked (Atom × Cursor) :=
  let start := c.column
  let c := c.skip 1
  match c.rest with
  | [] => Cursor.refuse .escapeUnfinished ⟨start, c.column⟩
  | ch :: _ =>
    let after := c.skip 1
    let place : Stretch := ⟨start, after.column⟩
    let atom (kind : AtomKind) : Checked (Atom × Cursor) := .ok (⟨kind, place⟩, after)
    if ch.isDigit then Cursor.refuse .backreference place
    else if ch = 'x' then hexEscape f start 2 (c.next f)
    else if ch = 'u' then hexEscape f start 4 (c.next f)
    else if ch = 'U' then hexEscape f start 8 (c.next f)
    else if ch = 'p' ∨ ch = 'P' then propertyEscape f start (c.next f)
    else if ['d', 's', 'w'].contains ch then atom (.letterClass false)
    else if ['D', 'S', 'W'].contains ch then atom (.letterClass true)
    else if ch = 'b' then boundaryEscape f start after
    else if ['B', '<', '>'].contains ch then atom .wordBoundary
    else if ch = 'A' ∨ ch = 'z' then atom .assertion
    else match controlLetter? ch with
      | some control => atom (.literal control)
      | none =>
        if ch.toNat < 128 && !ch.isAlpha then atom (.literal ch)
        else Cursor.refuse .escapeUnknown place

/-! ## What cannot be known -/

/-- What has been found out about a pattern that may still turn out wrong. -/
structure Findings where
  /-- The first thing that is well written but not available. -/
  unknown : Option Refusal
  hasBoundary : Bool

namespace Findings

def none : Findings := ⟨.none, false⟩

def add (problem : Problem) (place : Stretch) (found : Findings) : Findings :=
  { found with unknown := found.unknown <|> some ⟨problem, place, .none⟩ }

def addCase (f : Flags) (place : Stretch) (found : Findings) : Findings :=
  if f.ignoreCase && f.unicode then found.add .caseUnknown place else found

def addAtom (f : Flags) (a : Atom) (found : Findings) : Findings :=
  match a.kind with
  | .byte _ => if f.unicode then found else found.add .halfCharacter a.place
  | .letterClass negated =>
    if f.unicode then found.add .classUnknown a.place
    else if negated then found.add .halfCharacter a.place
    else found
  | .property => found.add (if f.unicode then .propertyUnknown else .propertyForbidden) a.place
  | .wordBoundary => if f.unicode then { found with hasBoundary := true } else found
  | _ => found

def addLiteral (f : Flags) (a : Atom) (found : Findings) : Findings :=
  match a.kind with
  | .literal _ => found.addCase f a.place
  | .byte _ => (found.addAtom f a).addCase f a.place
  | _ => found.addAtom f a

end Findings

/-! ## Classes -/

/-- A class that has been opened: its place up to its first item, and whether it is negated. -/
structure OpenClass where
  place : Stretch
  negated : Bool

def leadingHyphens (f : Flags) (start : Nat) : (fuel : Nat) → Cursor → Checked Cursor
  | 0, c => .ok c
  | fuel + 1, c =>
    if c.rest.head? = some '-' then
      let c := c.next f
      if c.isAtEnd then Cursor.refuse .classUnclosed ⟨start, start⟩
      else leadingHyphens f start fuel c
    else .ok c

/-- Opens a class at its bracket. A closing bracket right after that is an item. -/
def openClass (f : Flags) (c : Cursor) : Checked (OpenClass × Cursor) := do
  let start := c.column
  let onward (c : Cursor) : Checked Cursor :=
    let c := c.next f
    if c.isAtEnd then Cursor.refuse .classUnclosed ⟨start, c.column⟩ else .ok c
  let c ← onward c
  let negated := c.rest.head? == some '^'
  let c ← if negated then onward c else .ok c
  let first ← leadingHyphens f start c.rest.length c
  let c ← if first.column = c.column ∧ c.rest.head? = some ']' then onward c else .ok first
  return (⟨⟨start, c.column⟩, negated⟩, c)

def classItem (f : Flags) (c : Cursor) : Checked (Atom × Cursor) :=
  match c.rest with
  | '\\' :: _ => escape f c
  | ch :: _ => .ok (⟨.literal ch, c.here⟩, c.skip 1)
  | [] => Cursor.refuse .classUnclosed c.between

def rangeEnd (a : Atom) : Checked Char :=
  match a.kind with
  | .literal c => .ok c
  | .byte c => .ok c
  | _ => Cursor.refuse .rangeNotLiteral a.place

def classRange (f : Flags) (opening : Stretch) (c : Cursor) (found : Findings) :
    Checked (Cursor × Findings) := do
  let (first, c) ← classItem f c
  let c := c.skipBlanks f
  if c.isAtEnd then Cursor.refuse .classUnclosed opening
  else
    let afterNext := (c.next f).rest.head?
    if c.rest.head? ≠ some '-' ∨ afterNext = some ']' ∨ afterNext = some '-' then
      match first.kind with
      | .wordBoundary => Cursor.refuse .notInClass first.place
      | .assertion => Cursor.refuse .notInClass first.place
      | _ => return (c, found.addAtom f first)
    else
      let c := c.next f
      if c.isAtEnd then Cursor.refuse .classUnclosed opening
      else
        let (last, c) ← classItem f c
        let low ← rangeEnd first
        let high ← rangeEnd last
        if high < low then Cursor.refuse .rangeInvalid ⟨first.place.first, last.place.stop⟩
        else return (c, found)

def classNames : List String :=
  ["alnum", "alpha", "ascii", "blank", "cntrl", "digit", "graph", "lower", "print", "punct",
    "space", "upper", "word", "xdigit"]

/-- Passes over a named class such as `[:alpha:]`. -/
def namedClass? (c : Cursor) : Option Cursor :=
  if c.startsWith "[:" then
    let c := c.skip 2
    let c := if c.rest.head? = some '^' then c.skip 1 else c
    let name := c.rest.takeWhile (· != ':')
    let c := c.skip name.length
    if c.startsWith ":]" && classNames.contains (String.ofList name) then some (c.skip 2) else none
  else none

/-- The rest of a class in which the given classes are open, the innermost first. -/
def classFrom (f : Flags) : (fuel : Nat) → List OpenClass → Cursor → Findings →
    Checked (Cursor × Findings)
  | 0, _, c, found => .ok (c, found)
  | _, [], c, found => .ok (c, found)
  | fuel + 1, innermost :: outer, c, found => do
    let c := c.skipBlanks f
    match c.rest with
    | [] => Cursor.refuse .classUnclosed innermost.place
    | '[' :: _ =>
      match namedClass? c with
      | some after =>
        classFrom f fuel (innermost :: outer) after (found.addCase f ⟨c.column, after.column⟩)
      | none =>
        let (inner, c) ← openClass f c
        classFrom f fuel (inner :: innermost :: outer) c found
    | ']' :: _ =>
      let after := c.skip 1
      let place : Stretch := ⟨innermost.place.first, after.column⟩
      let found := found.addCase f place
      let found :=
        if innermost.negated && !f.unicode then found.add .halfCharacter place else found
      classFrom f fuel outer after found
    | _ =>
      if c.startsWith "&&" || c.startsWith "--" || c.startsWith "~~" then
        classFrom f fuel (innermost :: outer) (c.skip 2) found
      else
        let (c, found) ← classRange f innermost.place c found
        classFrom f fuel (innermost :: outer) c found

def classAt (f : Flags) (c : Cursor) (found : Findings) : Checked (Cursor × Findings) := do
  let (outermost, inside) ← openClass f c
  classFrom f (inside.rest.length + 2) [outermost] inside found

/-! ## Groups -/

/-- A group that has been opened, and the flags outside of it. -/
structure OpenGroup where
  place : Stretch
  flags : Flags

/-- A pattern as far as it has been checked. -/
structure Progress where
  cursor : Cursor
  flags : Flags
  /-- Whether there is something a repetition could repeat. -/
  hasOperand : Bool
  /-- Groups that are still open, the innermost first. -/
  groups : List OpenGroup
  names : List (String × Stretch)
  found : Findings

namespace Progress

def start (pattern : List Char) : Progress :=
  ⟨⟨0, pattern⟩, ⟨false, false, true⟩, false, [], [], .none⟩

def passed (cursor : Cursor) (found : Findings) (p : Progress) : Progress :=
  { p with cursor := cursor, found := found, hasOperand := true }

def enter (place : Stretch) (inside : Flags) (cursor : Cursor) (p : Progress) : Progress :=
  { p with
    cursor := cursor
    flags := inside
    hasOperand := false
    groups := ⟨place, p.flags⟩ :: p.groups }

end Progress

def canBeInName (isFirst : Bool) (c : Char) : Bool :=
  if isFirst then c == '_' || Text.isAlphabetic c
  else c == '_' || c == '.' || c == '[' || c == ']' || Text.isAlphanumeric c

/-- The name of a group up to its closing angle, after the characters read before, last first. -/
def nameFrom : (read : List Char) → Nat → List Char → Checked (List Char × Cursor)
  | _, column, [] => Cursor.refuse .nameUnfinished ⟨column, column⟩
  | read, column, c :: rest =>
    if c = '>' then .ok (read.reverse, ⟨column + 1, rest⟩)
    else if canBeInName read.isEmpty c then nameFrom (c :: read) (column + 1) rest
    else Cursor.refuse .nameInvalid ⟨column, column + 1⟩

def namedGroup (place : Stretch) (c : Cursor) (p : Progress) : Checked Progress := do
  let (cs, after) ← nameFrom [] c.column c.rest
  let name := String.ofList cs
  let here : Stretch := ⟨c.column, c.column + cs.length⟩
  if cs.isEmpty then Cursor.refuse .nameEmpty here
  else match p.names.lookup name with
    | some earlier => .error ⟨.nameRepeated, here, some earlier⟩
    | none => return { p.enter place p.flags after with names := (name, here) :: p.names }

def isFlag (c : Char) : Bool := ['i', 'm', 's', 'U', 'u', 'R', 'x'].contains c

def flagsFrom : (read : List (Char × Stretch)) → Nat → List Char →
    Checked (List (Char × Stretch) × Cursor)
  | _, column, [] => Cursor.refuse .flagsUnfinished ⟨column, column⟩
  | read, column, c :: rest =>
    let here : Stretch := ⟨column, column + 1⟩
    if c = ':' ∨ c = ')' then
      match read.getLast? with
      | some ('-', dangling) => Cursor.refuse .flagDangling dangling
      | _ => .ok (read, ⟨column, c :: rest⟩)
    else if c = '-' ∨ isFlag c then
      match read.lookup c with
      | some earlier =>
        .error ⟨if c = '-' then .negationRepeated else .flagRepeated, here, some earlier⟩
      | none => flagsFrom (read ++ [(c, here)]) (column + 1) rest
    else Cursor.refuse .flagUnknown here

/-- The flags as set by some letters; those after a hyphen are cleared. -/
def Flags.set (letters : List Char) (f : Flags) : Flags :=
  let put (value : Bool) (f : Flags) (c : Char) : Flags :=
    if c = 'x' then { f with verbose := value }
    else if c = 'i' then { f with ignoreCase := value }
    else if c = 'u' then { f with unicode := value }
    else f
  let cleared := (letters.dropWhile (· != '-')).drop 1
  cleared.foldl (put false) ((letters.takeWhile (· != '-')).foldl (put true) f)

/-- A group with flags, after its question mark, or flags for the rest of the group around it. -/
def flagGroup (place mark : Stretch) (c : Cursor) (p : Progress) : Checked Progress :=
  if c.isAtEnd then Cursor.refuse .groupUnclosed place
  else do
    let (read, c) ← flagsFrom [] c.column c.rest
    let flags := p.flags.set (read.map Prod.fst)
    if c.rest.head? = some ')' then
      if read.isEmpty then Cursor.refuse .nothingToRepeat mark
      else return { p with cursor := c.skip 1, flags := flags, hasOperand := false }
    else return p.enter place flags (c.skip 1)

def lookAroundMarks : List String := ["?=", "?!", "?<=", "?<!"]

def group (p : Progress) : Checked Progress :=
  let place := p.cursor.here
  let c := p.cursor.next p.flags
  match lookAroundMarks.find? c.startsWith with
  | some mark => Cursor.refuse .lookAround ⟨place.first, c.column + mark.length⟩
  | none =>
    if c.startsWith "?P<" then namedGroup place (c.skip 3) p
    else if c.startsWith "?<" then namedGroup place (c.skip 2) p
    else if c.startsWith "?" then flagGroup place c.between (c.skip 1) p
    else .ok (p.enter place p.flags c)

def leaveGroup (p : Progress) : Checked Progress :=
  match p.groups with
  | [] => Cursor.refuse .groupUnopened p.cursor.here
  | g :: outer =>
    .ok { p with cursor := p.cursor.skip 1, flags := g.flags, hasOperand := true, groups := outer }

/-! ## Repetition -/

def repeated (p : Progress) : Checked Progress :=
  if p.hasOperand then
    let c := p.cursor.skip 1
    let c := if c.rest.head? = some '?' then c.skip 1 else c
    .ok { p with cursor := c }
  else Cursor.refuse .nothingToRepeat p.cursor.between

/-- The digits of a count, of which `read` come before, last first, and where they end. -/
def countDigits (f : Flags) : (fuel : Nat) → (read : List Char) → Cursor → List Char × Cursor
  | 0, read, c => (read.reverse, c)
  | fuel + 1, read, c =>
    match c.rest with
    | ch :: _ =>
      if ch.isDigit then countDigits f fuel (ch :: read) (c.next f) else (read.reverse, c)
    | [] => (read.reverse, c)

def largestCount : Nat := Nat.pow 2 32 - 1

/-- A repetition by a count, whose braces never close. -/
def counted (p : Progress) : Checked Progress :=
  let brace := p.cursor
  if p.hasOperand then
    let c := brace.next p.flags
    let c := c.skip (c.rest.takeWhile Text.isBlank).length
    let (digits, stop) := countDigits p.flags c.rest.length [] c
    let place : Stretch := ⟨c.column, stop.column⟩
    let stop := (stop.skip (stop.rest.takeWhile Text.isBlank).length).skipBlanks p.flags
    let unclosed : Checked Progress := Cursor.refuse .countUnclosed ⟨brace.column, stop.column⟩
    if stop.isAtEnd then unclosed
    else if digits.isEmpty then Cursor.refuse .countNotDecimal place
    else if largestCount < NumberText.digitsValue digits then Cursor.refuse .countInvalid place
    else unclosed
  else Cursor.refuse .nothingToRepeat brace.between

/-! ## Patterns -/

def primitive (ch : Char) (p : Progress) : Checked Progress := do
  let c := p.cursor
  if ch = '\\' then
    let (a, after) ← escape p.flags c
    return p.passed after (p.found.addLiteral p.flags a)
  else if ch = '.' then
    let found := if p.flags.unicode then p.found else p.found.add .halfCharacter c.here
    return p.passed (c.skip 1) found
  else if ch = '^' ∨ ch = '$' then return p.passed (c.skip 1) p.found
  else return p.passed (c.skip 1) (p.found.addCase p.flags c.here)

def step (ch : Char) (p : Progress) : Checked Progress :=
  if ch = '(' then group p
  else if ch = ')' then leaveGroup p
  else if ch = '|' then .ok { p with cursor := p.cursor.skip 1, hasOperand := false }
  else if ch = '[' then do
    let (c, found) ← classAt p.flags p.cursor p.found
    return p.passed c found
  else if ch = '?' ∨ ch = '*' ∨ ch = '+' then repeated p
  else if ch = '\x7b' then counted p
  else primitive ch p

def checkFrom : (fuel : Nat) → Progress → Checked Progress
  | 0, p => .ok p
  | fuel + 1, p =>
    let c := p.cursor.skipBlanks p.flags
    match c.rest with
    | [] => .ok { p with cursor := c }
    | ch :: _ => do
      let p ← step ch { p with cursor := c }
      checkFrom fuel p

inductive Unusable
  | refused (r : Refusal) (pattern : List Char)
  /-- The pattern looks for boundaries of words in any script. -/
  | boundary
deriving DecidableEq, Repr

def Unusable.chain : Unusable → List String
  | .refused r pattern => ["error building NFA", "error parsing regex", r.text pattern]
  | .boundary =>
    ["unsupported regex feature for DFAs: cannot build DFAs for regexes with Unicode word " ++
      "boundaries; switch to ASCII word boundaries, or heuristically enable Unicode word " ++
      "boundaries or use a different regex engine"]

def check (pattern : List Char) : Except Unusable Unit := do
  let refused (r : Refusal) : Unusable := .refused r pattern
  let p ← (checkFrom (pattern.length + 1) (.start pattern)).mapError refused
  match p.groups, p.found.unknown with
  | g :: _, _ => .error (refused ⟨.groupUnclosed, g.place, none⟩)
  | [], some r => .error (refused r)
  | [], none => if p.found.hasBoundary then .error .boundary else .ok ()

end Crossover.Log.Pattern
