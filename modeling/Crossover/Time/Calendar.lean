/-!
# Calendar

Dates of the proleptic Gregorian calendar, counted in days from 1970-01-01. A year starts after
365 days for every year before it and one more for each leap year among them; the year of a day
is estimated from the mean length of a year and corrected by at most one. Months are found in
the two tables of month starts.
-/

namespace Crossover.Calendar

structure Date where
  year : Int
  month : Nat
  day : Nat
deriving DecidableEq, Repr

def isLeap (year : Int) : Bool :=
  year % 4 == 0 && (year % 100 != 0 || year % 400 == 0)

/-- Days from 0001-01-01 to the first day of a year. -/
def yearStart (year : Int) : Int :=
  let before := year - 1
  365 * before + before / 4 - before / 100 + before / 400

/-- Days from 0001-01-01 to 1970-01-01. -/
def epochDay : Int := 719162

/-- Days from the first of January to the first day of a month, and of the year after. -/
def monthStart (leap : Bool) (month : Nat) : Nat :=
  let shift := if leap then 1 else 0
  match month with
  | 0 | 1 => 0
  | 2 => 31
  | 3 => 59 + shift
  | 4 => 90 + shift
  | 5 => 120 + shift
  | 6 => 151 + shift
  | 7 => 181 + shift
  | 8 => 212 + shift
  | 9 => 243 + shift
  | 10 => 273 + shift
  | 11 => 304 + shift
  | 12 => 334 + shift
  | _ => 365 + shift

def monthLength (leap : Bool) (month : Nat) : Nat :=
  monthStart leap (month + 1) - monthStart leap month

def Date.isValid (d : Date) : Bool :=
  1 ≤ d.month && d.month ≤ 12 && 1 ≤ d.day && d.day ≤ monthLength (isLeap d.year) d.month

def yearOf (day : Int) : Int :=
  let guess := day * 400 / 146097 + 1
  if day < yearStart guess then guess - 1
  else if yearStart (guess + 1) ≤ day then guess + 1
  else guess

def monthOf (leap : Bool) (day : Nat) : Nat :=
  if day < monthStart leap 2 then 1
  else if day < monthStart leap 3 then 2
  else if day < monthStart leap 4 then 3
  else if day < monthStart leap 5 then 4
  else if day < monthStart leap 6 then 5
  else if day < monthStart leap 7 then 6
  else if day < monthStart leap 8 then 7
  else if day < monthStart leap 9 then 8
  else if day < monthStart leap 10 then 9
  else if day < monthStart leap 11 then 10
  else if day < monthStart leap 12 then 11
  else 12

def Date.toDays (d : Date) : Int :=
  yearStart d.year + monthStart (isLeap d.year) d.month + d.day - 1 - epochDay

def Date.ofDays (days : Int) : Date :=
  let day := days + epochDay
  let year := yearOf day
  let inYear := (day - yearStart year).toNat
  let month := monthOf (isLeap year) inYear
  ⟨year, month, inYear - monthStart (isLeap year) month + 1⟩

def weekdayName (days : Int) : String :=
  match (days % 7).toNat with
  | 0 => "Thu"
  | 1 => "Fri"
  | 2 => "Sat"
  | 3 => "Sun"
  | 4 => "Mon"
  | 5 => "Tue"
  | _ => "Wed"

def monthName (month : Nat) : String :=
  match month with
  | 1 => "Jan"
  | 2 => "Feb"
  | 3 => "Mar"
  | 4 => "Apr"
  | 5 => "May"
  | 6 => "Jun"
  | 7 => "Jul"
  | 8 => "Aug"
  | 9 => "Sep"
  | 10 => "Oct"
  | 11 => "Nov"
  | _ => "Dec"

end Crossover.Calendar
