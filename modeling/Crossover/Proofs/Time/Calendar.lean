import Mathlib.Tactic.ByContra
import Crossover.Time.Instant

/-!
# Days and dates

A day lies in exactly one year and in exactly one month of it, so the date of a day is a date
that exists, and its day is the one it was made from.
-/

namespace Crossover

namespace Calendar

theorem yearStart_succ (year : Int) :
    yearStart (year + 1) = yearStart year + 365 + if isLeap year then 1 else 0 := by
  have hleap : isLeap year = true ↔ year % 4 = 0 ∧ (year % 100 ≠ 0 ∨ year % 400 = 0) := by
    simp [isLeap]
  simp only [yearStart]
  by_cases h : isLeap year = true
  · obtain ⟨h₄, h₁₀₀⟩ := hleap.mp h
    rw [if_pos h]
    omega
  · rw [if_neg h]
    rw [hleap] at h
    omega

theorem yearStart_mono {year year' : Int} (h : year ≤ year') :
    yearStart year ≤ yearStart year' := by
  simp only [yearStart]
  omega

/-- The estimate is off by at most one. -/
theorem yearStart_guess (day : Int) :
    yearStart (day * 400 / 146097) ≤ day ∧ day < yearStart (day * 400 / 146097 + 3) := by
  simp only [yearStart]
  omega

theorem yearOf_spec (day : Int) :
    yearStart (yearOf day) ≤ day ∧ day < yearStart (yearOf day + 1) := by
  obtain ⟨hlow, hhigh⟩ := yearStart_guess day
  unfold yearOf
  generalize day * 400 / 146097 = guess at hlow hhigh
  dsimp only
  split
  · next hbefore =>
    rw [Int.add_sub_cancel]
    exact ⟨hlow, hbefore⟩
  · split
    · next hafter => exact ⟨hafter, by simpa [Int.add_assoc] using hhigh⟩
    · next hbefore hafter => exact ⟨Int.not_lt.mp hbefore, Int.not_le.mp hafter⟩

theorem le_yearOf {day year : Int} (h : yearStart year ≤ day) : year ≤ yearOf day := by
  by_contra hless
  have hmono : yearStart (yearOf day + 1) ≤ yearStart year := yearStart_mono (by omega)
  have hday := (yearOf_spec day).2
  omega

theorem yearOf_lt {day year : Int} (h : day < yearStart year) : yearOf day < year := by
  by_contra hless
  have hmono : yearStart year ≤ yearStart (yearOf day) := yearStart_mono (by omega)
  have hday := (yearOf_spec day).1
  omega

/-- A day, counted from the first of January, lies in a month. -/
structure InMonth (leap : Bool) (day month : Nat) : Prop where
  first : 1 ≤ month
  last : month ≤ 12
  begun : monthStart leap month ≤ day
  not_over : day < monthStart leap (month + 1)

/-- A day that is not in a month that has begun is in a later one. -/
theorem InMonth.ite {leap : Bool} {day month later : Nat} (hfirst : 1 ≤ month)
    (hlast : month ≤ 12) (hbegun : monthStart leap month ≤ day)
    (hlater : monthStart leap (month + 1) ≤ day → InMonth leap day later) :
    InMonth leap day (if day < monthStart leap (month + 1) then month else later) := by
  by_cases hover : day < monthStart leap (month + 1)
  · rw [if_pos hover]
    exact ⟨hfirst, hlast, hbegun, hover⟩
  · rw [if_neg hover]
    exact hlater (Nat.not_lt.mp hover)

theorem monthOf_spec (leap : Bool) {day : Nat} (h : day < monthStart leap 13) :
    InMonth leap day (monthOf leap day) := by
  refine .ite (by decide) (by decide) (Nat.zero_le _) fun february => ?_
  refine .ite (by decide) (by decide) february fun march => ?_
  refine .ite (by decide) (by decide) march fun april => ?_
  refine .ite (by decide) (by decide) april fun may => ?_
  refine .ite (by decide) (by decide) may fun june => ?_
  refine .ite (by decide) (by decide) june fun july => ?_
  refine .ite (by decide) (by decide) july fun august => ?_
  refine .ite (by decide) (by decide) august fun september => ?_
  refine .ite (by decide) (by decide) september fun october => ?_
  refine .ite (by decide) (by decide) october fun november => ?_
  refine .ite (by decide) (by decide) november fun december => ?_
  exact ⟨by decide, by decide, december, h⟩

theorem monthLength_le (leap : Bool) (month : Nat) : monthLength leap month ≤ 31 := by
  unfold monthLength
  match month with
  | 0 | 1 | 2 | 3 | 4 | 5 | 6 | 7 | 8 | 9 | 10 | 11 | 12 => cases leap <;> decide
  | n + 13 => simp [monthStart]

def dayOfYear (day : Int) : Nat := (day - yearStart (yearOf day)).toNat

theorem yearStart_add_dayOfYear (day : Int) : yearStart (yearOf day) + dayOfYear day = day := by
  have hfirst := (yearOf_spec day).1
  unfold dayOfYear
  omega

theorem dayOfYear_lt (day : Int) : dayOfYear day < monthStart (isLeap (yearOf day)) 13 := by
  have hlast := (yearOf_spec day).2
  have hsum := yearStart_add_dayOfYear day
  rw [yearStart_succ] at hlast
  cases hleap : isLeap (yearOf day) with
  | false =>
      rw [hleap, if_neg Bool.false_ne_true] at hlast
      change dayOfYear day < 365
      omega
  | true =>
      rw [hleap, if_pos rfl] at hlast
      change dayOfYear day < 366
      omega

namespace Date

theorem isValid_iff (d : Date) :
    d.isValid = true ↔
      (1 ≤ d.month ∧ d.month ≤ 12) ∧ 1 ≤ d.day ∧ d.day ≤ monthLength (isLeap d.year) d.month := by
  simp [isValid, and_assoc]

section OfDays

variable (days : Int)

theorem ofDays_year : (ofDays days).year = yearOf (days + epochDay) := rfl

theorem ofDays_month : (ofDays days).month =
    monthOf (isLeap (yearOf (days + epochDay))) (dayOfYear (days + epochDay)) := rfl

theorem ofDays_day : (ofDays days).day =
    dayOfYear (days + epochDay) -
      monthStart (isLeap (ofDays days).year) (ofDays days).month + 1 := rfl

/-- The day lies in the month of its date. -/
theorem ofDays_inMonth :
    InMonth (isLeap (ofDays days).year) (dayOfYear (days + epochDay)) (ofDays days).month := by
  rw [ofDays_month, ofDays_year]
  exact monthOf_spec _ (dayOfYear_lt _)

theorem ofDays_isValid : (ofDays days).isValid = true := by
  obtain ⟨hfirst, hlast, hbegun, hnotover⟩ := ofDays_inMonth days
  rw [isValid_iff, monthLength]
  refine ⟨⟨hfirst, hlast⟩, ?_⟩
  rw [ofDays_day]
  omega

/-- The date of a day is the date of no other day. -/
theorem toDays_ofDays : (ofDays days).toDays = days := by
  have hbegun := (ofDays_inMonth days).begun
  have hsum := yearStart_add_dayOfYear (days + epochDay)
  rw [← ofDays_year] at hsum
  rw [toDays, ofDays_day]
  omega

end OfDays

end Date

end Calendar

namespace Instant

open Calendar

/-- The years that instants reach. -/
theorem date_year_bounds (t : Instant) : -262143 ≤ t.date.year ∧ t.date.year ≤ 262142 := by
  have hfirst := t.first_le
  have hlast := t.le_last
  have hbegin : yearStart (-262143) ≤ t.dayNumber + epochDay := by
    simp only [yearStart, dayNumber, epochDay]
    omega
  have hend : t.dayNumber + epochDay < yearStart 262143 := by
    simp only [yearStart, dayNumber, epochDay]
    omega
  have hleast := le_yearOf hbegin
  have hmost := yearOf_lt hend
  change -262143 ≤ yearOf (t.dayNumber + epochDay) ∧ yearOf (t.dayNumber + epochDay) ≤ 262142
  omega

theorem second_eq (t : Instant) : t.dayNumber * 86400 + t.secondOfDay = t.second := by
  unfold dayNumber secondOfDay
  omega

theorem secondOfDay_lt (t : Instant) : t.secondOfDay < 86400 := by
  unfold secondOfDay
  omega

end Instant

end Crossover
