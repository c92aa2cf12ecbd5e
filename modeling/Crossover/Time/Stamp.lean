import Crossover.Time.Instant
import Crossover.Text.Blank

/-!
# Timestamps

The texts of instants. The written form is a date, a `T`, a time of day with no, three, six or
nine decimals (the fewest that lose nothing), and a zone; years outside 0..9999 carry a sign. The
reader is more liberal: blanks between the parts, single digits, any number of decimals, any
offset from universal time, and the second 60. It refuses a text for one of five reasons, the
first that applies from left to right.
-/

namespace Crossover.Stamp

open Text (trimStart)

/-- A number with zeros in front, at least `width` digits. -/
def padded (width n : Nat) : List Char :=
  let ds := Nat.toDigits 10 n
  List.replicate (width - ds.length) '0' ++ ds

def yearChars (year : Int) : List Char :=
  if 0 ≤ year ∧ year ≤ 9999 then padded 4 year.natAbs
  else (if year < 0 then '-' else '+') :: padded 4 year.natAbs

def dateChars (d : Calendar.Date) : List Char :=
  yearChars d.year ++ '-' :: padded 2 d.month ++ '-' :: padded 2 d.day

def fractionChars (nano : Nat) : List Char :=
  if nano = 0 then []
  else if nano % 1000000 = 0 then '.' :: padded 3 (nano / 1000000)
  else if nano % 1000 = 0 then '.' :: padded 6 (nano / 1000)
  else '.' :: padded 9 nano

/-- The time of day; a leap second shows as second 60. -/
def timeChars (secondOfDay nano : Nat) : List Char :=
  let extra := if 1000000000 ≤ nano then 1 else 0
  padded 2 (secondOfDay / 3600) ++ ':' :: padded 2 (secondOfDay / 60 % 60) ++
    ':' :: padded 2 (secondOfDay % 60 + extra) ++ fractionChars (nano % 1000000000)

def instantChars (between : Char) (t : Instant) : List Char :=
  dateChars t.date ++ between :: timeChars t.secondOfDay t.nano

/-- The wire form, which ends in `Z`. -/
def wireChars (t : Instant) : List Char :=
  instantChars 'T' t ++ ['Z']

def wire (t : Instant) : String :=
  String.ofList (wireChars t)

/-- The wire form with the zone written as an offset. -/
def withOffset (t : Instant) : String :=
  String.ofList (instantChars 'T' t ++ "+00:00".toList)

def display (t : Instant) : String :=
  String.ofList (instantChars ' ' t ++ " UTC".toList)

def diary (t : Instant) : String :=
  let d := t.date
  let day := Nat.toDigits 10 d.day
  Calendar.weekdayName t.dayNumber ++ " " ++ Calendar.monthName d.month ++ " " ++
    String.ofList (List.replicate (2 - day.length) ' ' ++ day ++ ' ' ::
      padded 2 (t.secondOfDay / 3600) ++ ':' :: padded 2 (t.secondOfDay / 60 % 60))

inductive Problem
  | outOfRange
  | tooShort
  | invalid
  | trailing
  | impossible
deriving DecidableEq, Repr

def Problem.message : Problem → String
  | .outOfRange => "input is out of range"
  | .tooShort => "premature end of input"
  | .invalid => "input contains invalid characters"
  | .trailing => "trailing input"
  | .impossible => "no possible date and time matching input"

def digitsValue (ds : List Char) : Nat :=
  ds.foldl (fun n c => n * 10 + (c.toNat - '0'.toNat)) 0

/-- At least one digit, and at most `width` of them. -/
def number (width : Nat) (cs : List Char) : Except Problem (Nat × List Char) :=
  match (cs.take width).takeWhile Char.isDigit with
  | [] => .error (if cs.isEmpty then .tooShort else .invalid)
  | ds => .ok (digitsValue ds, cs.drop ds.length)

def ranged (low high : Nat) (width : Nat) (cs : List Char) : Except Problem (Nat × List Char) := do
  let (n, rest) ← number width (trimStart cs)
  if low ≤ n ∧ n ≤ high then .ok (n, rest) else .error .outOfRange

/-- A signed year may have any number of digits, one without a sign has up to four. -/
def year (cs : List Char) : Except Problem (Int × List Char) := do
  let bounded (n : Int) (rest : List Char) : Except Problem (Int × List Char) :=
    if -2147483648 ≤ n ∧ n ≤ 2147483647 then .ok (n, rest) else .error .outOfRange
  match trimStart cs with
  | '-' :: rest => do
    let (n, rest) ← number rest.length rest
    bounded (-n) rest
  | '+' :: rest => do
    let (n, rest) ← number rest.length rest
    bounded n rest
  | cs => do
    let (n, rest) ← number 4 cs
    bounded n rest

def literal (expected : Char) (cs : List Char) : Except Problem (List Char) :=
  match trimStart cs with
  | [] => .error .tooShort
  | c :: rest => if c = expected then .ok rest else .error .invalid

/-- Decimals of a second in nanoseconds; digits after the ninth are dropped. -/
def fraction (cs : List Char) : Except Problem (Nat × List Char) :=
  match cs with
  | '.' :: rest => do
    let (n, after) ← number 9 rest
    let used := rest.length - after.length
    .ok (n * Nat.pow 10 (9 - used), after.dropWhile Char.isDigit)
  | _ => .ok (0, cs)

/-- The next two digits, as a number. A lone character of several bytes is already wrong. -/
def twoDigits (highTens : Char) (cs : List Char) : Except Problem (Nat × List Char) :=
  match cs with
  | [] => .error .tooShort
  | [c] => .error (if c.toNat < 128 then .tooShort else .invalid)
  | a :: b :: rest =>
    if a.isDigit && b.isDigit then
      if a ≤ highTens then .ok (digitsValue [a, b], rest) else .error .outOfRange
    else .error .invalid

def zone (cs : List Char) : Except Problem (Int × List Char) :=
  match cs with
  | 'Z' :: rest => .ok (0, rest)
  | 'z' :: rest => .ok (0, rest)
  | [] => .error .tooShort
  | sign :: rest =>
    if (cs.take 3).map Char.toLower = ['u', 't', 'c'] then .ok (0, cs.drop 3)
    else if sign = '+' ∨ sign = '-' ∨ sign = '−' then do
      let (hours, rest) ← twoDigits '9' rest
      let (minutes, rest) ← twoDigits '5' (rest.dropWhile fun c => c = ':' || Text.isBlank c)
      let seconds : Int := hours * 3600 + minutes * 60
      .ok (if sign = '+' then seconds else -seconds, rest)
    else .error .invalid

/-- The instant of a local date and time, `offset` seconds east of universal time. -/
def resolve (d : Calendar.Date) (hour minute second nano : Nat) (offset : Int) :
    Except Problem Instant :=
  if !d.isValid || d.year < -262143 || 262142 < d.year || 86400 ≤ offset.natAbs then
    .error .outOfRange
  else
    let (second, nano) := if second = 60 then (59, nano + 1000000000) else (second, nano)
    let ofDay : Int := hour * 3600 + minute * 60 + second
    match Instant.ofParts? (d.toDays * 86400 + ofDay - offset) nano with
    | some t => .ok t
    | none => .error .impossible

def read (cs : List Char) : Except Problem Instant := do
  let (year, cs) ← year cs
  let cs ← literal '-' cs
  let (month, cs) ← ranged 1 12 2 cs
  let cs ← literal '-' cs
  let (day, cs) ← ranged 1 31 2 cs
  let cs ← match cs with
    | [] => .error .tooShort
    | c :: rest => if c = 'T' ∨ c = 't' ∨ c = ' ' then .ok rest else .error .invalid
  let (hour, cs) ← ranged 0 23 2 cs
  let cs ← literal ':' cs
  let (minute, cs) ← ranged 0 59 2 cs
  let cs ← literal ':' cs
  let (second, cs) ← ranged 0 60 2 cs
  let (nano, cs) ← fraction cs
  let (offset, cs) ← zone (trimStart cs)
  if !(trimStart cs).isEmpty then .error .trailing
  resolve ⟨year, month, day⟩ hour minute second nano offset

end Crossover.Stamp
