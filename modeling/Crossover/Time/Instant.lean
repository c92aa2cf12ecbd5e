import Crossover.Time.Calendar

/-!
# Instants

A point of universal time with nanoseconds. A leap second is held as a nanosecond count of one
thousand million or more on the fifty-ninth second of a minute. Instants reach from the first day
of the year -262143 to the last of 262142; milliseconds outside that range stand for the epoch.
-/

namespace Crossover

structure Instant where
  /-- Whole seconds since 1970-01-01T00:00:00Z. -/
  second : Int
  nano : Nat
  first_le : -8334601228800 ≤ second := by omega
  le_last : second ≤ 8210266876799 := by omega
  nano_lt : nano < 2000000000 := by omega
  leap : 1000000000 ≤ nano → second % 60 = 59 := by omega
deriving DecidableEq

namespace Instant

def epoch : Instant where
  second := 0
  nano := 0

instance : Inhabited Instant := ⟨epoch⟩

def ofParts? (second : Int) (nano : Nat) : Option Instant :=
  if h : -8334601228800 ≤ second ∧ second ≤ 8210266876799 ∧ nano < 2000000000 ∧
      (1000000000 ≤ nano → second % 60 = 59) then
    some ⟨second, nano, h.1, h.2.1, h.2.2.1, h.2.2.2⟩
  else none

theorem ofParts?_self (t : Instant) : ofParts? t.second t.nano = some t := by
  unfold ofParts?
  rw [dif_pos ⟨t.first_le, t.le_last, t.nano_lt, t.leap⟩]

def ofMillis (ms : Int) : Instant :=
  (ofParts? (ms / 1000) ((ms % 1000).toNat * 1000000)).getD epoch

def toMillis (t : Instant) : Int :=
  t.second * 1000 + (t.nano / 1000000 : Nat)

def dayNumber (t : Instant) : Int := t.second / 86400

def secondOfDay (t : Instant) : Nat := (t.second % 86400).toNat

def date (t : Instant) : Calendar.Date := .ofDays t.dayNumber

end Instant

end Crossover
