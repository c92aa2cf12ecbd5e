import Crossover.Json.Cursor

/-!
# Strings and numbers in JSON texts

Strings are read with their escapes, a pair of surrogate escapes giving one character. Integers
that fit a 64-bit word stay integers. All other numbers become binary64: the significant digits
are collected into a 64-bit word, further ones only shift the exponent, and the word is then
multiplied or divided by a power of ten, so that the result is the nearest binary64 number only
if that one operation is exact or rounds to it. A number beyond the binary64 range is refused.
-/

namespace Crossover.Json

namespace Cursor

def hexValue? (c : Char) : Option Nat :=
  if c.isDigit then some (c.toNat - '0'.toNat)
  else if 'a' ≤ c ∧ c ≤ 'f' then some (c.toNat - 'a'.toNat + 10)
  else if 'A' ≤ c ∧ c ≤ 'F' then some (c.toNat - 'A'.toNat + 10)
  else none

def hexValues? (a b c d : Char) : Option Nat := do
  let a ← hexValue? a
  let b ← hexValue? b
  let c ← hexValue? c
  let d ← hexValue? d
  return ((a * 16 + b) * 16 + c) * 16 + d

def byteCount (cs : List Char) : Nat :=
  cs.foldl (fun n c => n + c.utf8Size) 0

/-- The four digits of a hexadecimal escape. A wrong digit is noticed after all four bytes. -/
def hexEscape (c : Cursor) : Except Error (Nat × Cursor) :=
  let next := c.rest.take 4
  match next with
  | [a, b, d, e] =>
    match hexValues? a b d e with
    | some n => .ok (n, c.skip next)
    | none => .error ⟨.invalidEscape, c.place.afterBytes 4 next⟩
  | _ =>
    if byteCount next < 4 then .error ⟨.endInString, c.place.afterBytes 4 next⟩
    else .error ⟨.invalidEscape, c.place.afterBytes 4 next⟩

/-- The letter that must follow a leading surrogate, at the given cursor. -/
def surrogateMark (expected : Char) (c : Cursor) : Except Error Cursor :=
  match c.rest with
  | [] => c.fail .endInString
  | ch :: _ => if ch = expected then .ok c.advance else c.failNext .endOfHexEscape

def unicodeEscape (c : Cursor) : Except Error (Char × Cursor) := do
  let (n, c) ← hexEscape c
  if 0xdc00 ≤ n ∧ n ≤ 0xdfff then c.fail .loneSurrogate
  else if 0xd800 ≤ n ∧ n ≤ 0xdbff then
    let c ← surrogateMark '\\' c
    let c ← surrogateMark 'u' c
    let (m, c) ← hexEscape c
    if 0xdc00 ≤ m ∧ m ≤ 0xdfff then
      return (Char.ofNat ((n - 0xd800) * 1024 + (m - 0xdc00) + 0x10000), c)
    else c.fail .loneSurrogate
  else return (Char.ofNat n, c)

def letterEscape? (c : Char) : Option Char :=
  match c with
  | '"' => some '"'
  | '\\' => some '\\'
  | '/' => some '/'
  | 'b' => some '\x08'
  | 'f' => some '\x0c'
  | 'n' => some '\n'
  | 'r' => some '\r'
  | 't' => some '\t'
  | _ => none

def escape (c : Cursor) : Except Error (Char × Cursor) :=
  match c.rest with
  | [] => c.fail .endInString
  | ch :: _ =>
    if ch = 'u' then unicodeEscape c.advance
    else match letterEscape? ch with
      | some e => .ok (e, c.advance)
      | none => c.failNext .invalidEscape

/-- The characters up to the closing quote, put in front of those read before, last first. -/
def stringChars : (fuel : Nat) → List Char → Cursor → Except Error (List Char × Cursor)
  | 0, _, c => c.fail .endInString
  | fuel + 1, read, c =>
    match c.rest with
    | [] => c.fail .endInString
    | ch :: _ =>
      if ch = '"' then .ok (read.reverse, c.advance)
      else if ch = '\\' then do
        let (e, c) ← escape c.advance
        stringChars fuel (e :: read) c
      else if ch.toNat < 0x20 then c.failNext .controlCharacter
      else stringChars fuel (ch :: read) c.advance

def string (c : Cursor) : Except Error (String × Cursor) := do
  let (cs, c) ← stringChars (c.rest.length + 1) [] c
  return (String.ofList cs, c)

/-- Passes over an escape without looking at the character it stands for. -/
def skipEscape (c : Cursor) : Except Error Cursor :=
  match c.rest with
  | [] => c.fail .endInString
  | ch :: _ =>
    if ch = 'u' then (hexEscape c.advance).map Prod.snd
    else if (letterEscape? ch).isSome then .ok c.advance
    else c.failNext .invalidEscape

def skipString : (fuel : Nat) → Cursor → Except Error Cursor
  | 0, c => c.fail .endInString
  | fuel + 1, c =>
    match c.rest with
    | [] => c.fail .endInString
    | ch :: _ =>
      if ch = '"' then .ok c.advance
      else if ch = '\\' then do
        let c ← skipEscape c.advance
        skipString fuel c
      else if ch.toNat < 0x20 then c.fail .controlCharacter
      else skipString fuel c.advance

end Cursor

inductive Number
  | natural (n : Nat)
  | negative (n : Nat)
  | real (x : Float)

def Number.toFloat : Number → Float
  | .natural n => Float.ofNat n
  | .negative n => -Float.ofNat n
  | .real x => x

namespace Digits

def largest : Nat := Nat.pow 2 64 - 1

def value (c : Char) : Nat := c.toNat - '0'.toNat

/-- Digits collected into a word: the word, and how many did not fit. -/
def collect : Nat → List Char → Nat × Nat
  | word, [] => (word, 0)
  | word, c :: rest =>
    let more := word * 10 + value c
    if more ≤ largest then collect more rest else (word, rest.length + 1)

def powerOfTen (e : Nat) : Float := Float.ofScientific 1 false e

/-- `word * 10 ^ e`, in steps of at most 308 powers of ten, unless it is too large. -/
def scaled? : (fuel : Nat) → Float → Int → Option Float
  | 0, x, _ => some x
  | fuel + 1, x, e =>
    if e.natAbs ≤ 308 then
      if 0 ≤ e then
        let y := x * powerOfTen e.natAbs
        if y.isInf then none else some y
      else some (x / powerOfTen e.natAbs)
    else if x == 0.0 then some x
    else if 0 ≤ e then none
    else scaled? fuel (x / powerOfTen 308) (e + 308)

end Digits

namespace Cursor

def digits (c : Cursor) : List Char := c.rest.takeWhile Char.isDigit

def real (negative : Bool) (word : Nat) (e : Int) (c : Cursor) : Except Error (Number × Cursor) :=
  match Digits.scaled? 4 (Float.ofNat word) e with
  | some x => .ok (.real (if negative then -x else x), c)
  | none => c.fail .numberOutOfRange

def largestExponent : Nat := Nat.pow 2 31 - 1

/-- The digits of an exponent, one after another; beyond the 32-bit range only zero or an
underflow is left to read. -/
def exponentDigits (negative : Bool) (word : Nat) (start : Int) (down : Bool) :
    Nat → List Char → Cursor → Except Error (Number × Cursor)
  | e, [], c => real negative word (if down then start - e else start + e) c
  | e, d :: rest, c =>
    let more := e * 10 + Digits.value d
    let c := c.advance
    if more ≤ largestExponent then exponentDigits negative word start down more rest c
    else if word ≠ 0 ∧ !down then c.fail .numberOutOfRange
    else .ok (.real (if negative then -0.0 else 0.0), c.skip rest)

def exponent (negative : Bool) (word : Nat) (start : Int) (c : Cursor) :
    Except Error (Number × Cursor) :=
  let c := c.advance
  let (down, c) := match c.rest with
    | '+' :: _ => (false, c.advance)
    | '-' :: _ => (true, c.advance)
    | _ => (false, c)
  match c.digits with
  | [] => if c.rest.isEmpty then c.fail .endInValue else c.failNext .invalidNumber
  | ds => exponentDigits negative word start down 0 ds c

def isExponentMark (c : Char) : Bool := c == 'e' || c == 'E'

/-- The decimals, at the point, of a number whose collected digits count `10 ^ e`. -/
def decimals (negative : Bool) (word : Nat) (e : Int) (c : Cursor) :
    Except Error (Number × Cursor) :=
  let c := c.advance
  match c.digits with
  | [] => c.failNext (if c.rest.isEmpty then .endInValue else .invalidNumber)
  | ds =>
    let (word, dropped) := Digits.collect word ds
    let e := e - (ds.length - dropped : Nat)
    let c := c.skip ds
    match c.rest with
    | ch :: _ => if isExponentMark ch then exponent negative word e c else real negative word e c
    | [] => real negative word e c

def integer (negative : Bool) (word : Nat) : Number :=
  if negative then
    if word = 0 ∨ Nat.pow 2 63 < word then .real (-Float.ofNat word) else .negative word
  else .natural word

def afterWhole (negative : Bool) (ds : List Char) (c : Cursor) :
    Except Error (Number × Cursor) :=
  let (word, dropped) := Digits.collect 0 ds
  let c := c.skip ds
  let plain :=
    if dropped = 0 then .ok (integer negative word, c) else real negative word dropped c
  match c.rest with
  | ch :: _ =>
    if ch = '.' then decimals negative word dropped c
    else if isExponentMark ch then exponent negative word dropped c
    else plain
  | [] => plain

def unsigned (negative : Bool) (c : Cursor) : Except Error (Number × Cursor) :=
  match c.digits with
  | [] => if c.rest.isEmpty then c.fail .endInValue else c.failNext .invalidNumber
  | d :: more =>
    if d = '0' ∧ !more.isEmpty then c.advance.failNext .invalidNumber
    else afterWhole negative (d :: more) c

def number (c : Cursor) : Except Error (Number × Cursor) :=
  match c.rest with
  | '-' :: _ => unsigned true c.advance
  | _ => unsigned false c

def skipExponent (c : Cursor) : Except Error Cursor :=
  let c := c.advance
  let c := match c.rest with
    | '+' :: _ => c.advance
    | '-' :: _ => c.advance
    | _ => c
  match c.digits with
  | [] => c.failNext .invalidNumber
  | ds => .ok (c.skip ds)

def skipDecimals (c : Cursor) : Except Error Cursor :=
  let c := c.advance
  match c.digits with
  | [] => c.failNext .invalidNumber
  | ds =>
    let c := c.skip ds
    match c.rest with
    | ch :: _ => if isExponentMark ch then skipExponent c else .ok c
    | [] => .ok c

/-- Passes over a number, of any size, after its sign. -/
def skipUnsigned (c : Cursor) : Except Error Cursor :=
  match c.digits with
  | [] => c.failNext .invalidNumber
  | d :: more =>
    if d = '0' ∧ !more.isEmpty then c.advance.failNext .invalidNumber
    else
      let c := c.skip (d :: more)
      match c.rest with
      | ch :: _ =>
        if ch = '.' then skipDecimals c
        else if isExponentMark ch then skipExponent c
        else .ok c
      | [] => .ok c

def skipNumber (c : Cursor) : Except Error Cursor :=
  match c.rest with
  | '-' :: _ => skipUnsigned c.advance
  | _ => skipUnsigned c

end Cursor

end Crossover.Json
