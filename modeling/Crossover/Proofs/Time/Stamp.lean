import Mathlib.Algebra.Group.Nat.Defs
import Crossover.Proofs.Text.Digits
import Crossover.Proofs.Time.Calendar
import Crossover.Time.Stamp

/-!
# Timestamps read back

The reader takes the written form apart where it was put together: each number ends where its
digits end, and the marks between them are neither digits nor blanks. So the wire form of an
instant is read as that instant, in every year, with every fraction and in a leap second.
-/

namespace Crossover

namespace Stamp

open Text

/-- The digits end at the width of the number or before something else. -/
theorem number_append {width : Nat} {ds rest : List Char} (hne : ds ≠ [])
    (hdigits : ∀ c ∈ ds, c.isDigit = true) (hwidth : ds.length ≤ width)
    (hend : ds.length = width ∨ PastDigits rest) :
    number width (ds ++ rest) = .ok (digitsValue ds, rest) := by
  have htake : ((ds ++ rest).take width).takeWhile Char.isDigit = ds := by
    rw [List.take_append, List.take_of_length_le hwidth]
    apply takeWhile_append_pastDigits hdigits
    rcases hend with hlength | hpast
    · rw [hlength, Nat.sub_self, List.take_zero]
      simp [PastDigits]
    · exact hpast.take _
  unfold number
  rw [htake]
  split
  · next hnil => exact absurd rfl hne
  · rw [List.drop_left]

section Padded

variable {width n : Nat}

theorem digitsValue_eq (ds : List Char) : digitsValue ds = Nat.ofDigitChars 10 ds 0 := by
  simp only [digitsValue, Nat.ofDigitChars, Nat.mul_comm 10]

theorem digitsValue_padded : digitsValue (padded width n) = n := by
  rw [digitsValue_eq, padded, Nat.ofDigitChars_append, Nat.ofDigitChars_replicate_zero,
    Nat.mul_zero, Nat.ofDigitChars_ten_toDigits]

theorem isDigit_of_mem_padded {c : Char} (h : c ∈ padded width n) : c.isDigit = true := by
  rcases List.mem_append.mp h with hzero | hdigit
  · rw [List.eq_of_mem_replicate hzero]
    decide
  · exact Nat.isDigit_of_mem_toDigits (by decide) (by decide) hdigit

theorem padded_ne_nil (width n : Nat) : padded width n ≠ [] :=
  List.append_ne_nil_of_right_ne_nil _ Nat.toDigits_ne_nil

theorem length_padded (hwidth : 0 < width) (h : n < 10 ^ width) :
    (padded width n).length = width := by
  have hlength := (Nat.length_toDigits_le_iff (by decide) hwidth).mpr h
  rw [padded, List.length_append, List.length_replicate]
  omega

theorem padded_eq_cons (width n : Nat) : ∃ c ds, padded width n = c :: ds ∧ c.isDigit = true := by
  obtain ⟨c, ds, hcons⟩ := List.exists_cons_of_ne_nil (padded_ne_nil width n)
  exact ⟨c, ds, hcons, isDigit_of_mem_padded (hcons ▸ List.mem_cons_self)⟩

theorem trimStart_padded (rest : List Char) :
    trimStart (padded width n ++ rest) = padded width n ++ rest := by
  obtain ⟨c, ds, hcons, hc⟩ := padded_eq_cons width n
  rw [hcons, List.cons_append]
  exact trimStart_cons (isBlank_of_isDigit hc)

theorem number_padded (hwidth : 0 < width) (h : n < 10 ^ width) (rest : List Char) :
    number width (padded width n ++ rest) = .ok (n, rest) := by
  have hlength := length_padded hwidth h
  rw [number_append (padded_ne_nil _ _) (fun _ => isDigit_of_mem_padded) (Nat.le_of_eq hlength)
    (.inl hlength), digitsValue_padded]

theorem ranged_padded {low high : Nat} (hwidth : 0 < width) (h : n < 10 ^ width)
    (hrange : low ≤ n ∧ n ≤ high) (rest : List Char) :
    ranged low high width (padded width n ++ rest) = .ok (n, rest) := by
  rw [ranged, trimStart_padded, number_padded hwidth h]
  exact if_pos hrange

end Padded

theorem literal_cons {c : Char} (h : isBlank c = false) (rest : List Char) :
    literal c (c :: rest) = .ok rest := by
  rw [literal, trimStart_cons h]
  exact if_pos rfl

/-- A year with a sign has as many digits as there are before the mark. -/
theorem number_padded_year (n : Nat) (rest : List Char) :
    number (padded 4 n ++ '-' :: rest).length (padded 4 n ++ '-' :: rest) =
      .ok (n, '-' :: rest) := by
  rw [number_append (padded_ne_nil _ _) (fun _ => isDigit_of_mem_padded)
    (by rw [List.length_append]; exact Nat.le_add_right _ _)
    (.inr (.cons (by decide) _)), digitsValue_padded]

theorem year_yearChars {y : Int} (h : -262143 ≤ y ∧ y ≤ 262142) (rest : List Char) :
    year (yearChars y ++ '-' :: rest) = .ok (y, '-' :: rest) := by
  have hrange : (-2147483648 : Int) ≤ y ∧ y ≤ 2147483647 := by omega
  by_cases hplain : 0 ≤ y ∧ y ≤ 9999
  · have hsmall : y.natAbs < 10 ^ 4 := by omega
    have habs : (y.natAbs : Int) = y := by omega
    have hunsigned {c : Char} {cs : List Char}
        (heq : padded 4 y.natAbs ++ '-' :: rest = c :: cs) : c.isDigit = true := by
      obtain ⟨d, ds, hcons, hd⟩ := padded_eq_cons 4 y.natAbs
      rw [hcons] at heq
      cases heq
      exact hd
    rw [yearChars, if_pos hplain, year, trimStart_padded]
    split
    · next heq => cases hunsigned heq
    · next heq => cases hunsigned heq
    · rw [number_padded (by decide) hsmall]
      simp only [bind, Except.bind, habs]
      exact if_pos hrange
  · rw [yearChars, if_neg hplain]
    by_cases hneg : y < 0
    · have habs : -(y.natAbs : Int) = y := by omega
      rw [if_pos hneg, List.cons_append, year, trimStart_cons (by decide)]
      simp only [number_padded_year, bind, Except.bind, habs]
      exact if_pos hrange
    · have habs : (y.natAbs : Int) = y := by omega
      rw [if_neg hneg, List.cons_append, year, trimStart_cons (by decide)]
      simp only [number_padded_year, bind, Except.bind, habs]
      exact if_pos hrange

theorem fraction_padded {width n : Nat} (hwidth : 0 < width) (hnine : width ≤ 9)
    (h : n < 10 ^ width) :
    fraction ('.' :: padded width n ++ ['Z']) = .ok (n * 10 ^ (9 - width), ['Z']) := by
  have hlength := length_padded hwidth h
  have hnumber : number 9 (padded width n ++ ['Z']) = .ok (n, ['Z']) := by
    rw [number_append (padded_ne_nil _ _) (fun _ => isDigit_of_mem_padded) (by omega)
      (.inr (.cons (by decide) _)), digitsValue_padded]
  rw [List.cons_append, fraction, hnumber]
  simp [bind, Except.bind, hlength]

theorem fraction_fractionChars {nano : Nat} (h : nano < 1000000000) :
    fraction (fractionChars nano ++ ['Z']) = .ok (nano, ['Z']) := by
  unfold fractionChars
  by_cases hnone : nano = 0
  · rw [if_pos hnone, hnone]
    rfl
  rw [if_neg hnone]
  by_cases hmillis : nano % 1000000 = 0
  · rw [if_pos hmillis, fraction_padded (by decide) (by decide) (by omega)]
    congr 2
    omega
  rw [if_neg hmillis]
  by_cases hmicros : nano % 1000 = 0
  · rw [if_pos hmicros, fraction_padded (by decide) (by decide) (by omega)]
    congr 2
    omega
  · rw [if_neg hmicros, fraction_padded (by decide) (by decide) (by omega)]
    congr 2
    omega

/-- The second of the minute and the fraction: a leap second shows as second 60. -/
theorem leapParts (t : Instant) :
    (if t.secondOfDay % 60 + (if 1000000000 ≤ t.nano then 1 else 0) = 60 then
        (59, t.nano % 1000000000 + 1000000000)
      else (t.secondOfDay % 60 + (if 1000000000 ≤ t.nano then 1 else 0), t.nano % 1000000000)) =
      (t.secondOfDay % 60, t.nano) := by
  have hnano := t.nano_lt
  by_cases hleap : 1000000000 ≤ t.nano
  -- an instant in a leap second belongs to the last second of its minute
  · have hlast : t.second % 60 = 59 := t.leap hleap
    have hsecond : t.secondOfDay % 60 = 59 := by
      unfold Instant.secondOfDay
      omega
    rw [if_pos hleap, hsecond, if_pos rfl]
    congr 1
    omega
  · have hbelow : t.secondOfDay % 60 + 0 ≠ 60 := by omega
    have hnano' : t.nano % 1000000000 = t.nano := Nat.mod_eq_of_lt (by omega)
    rw [if_neg hleap, if_neg hbelow, Nat.add_zero, hnano']

/-- The parts that were written make up the instant again. -/
theorem resolve_parts (t : Instant) :
    resolve t.date (t.secondOfDay / 3600) (t.secondOfDay / 60 % 60)
      (t.secondOfDay % 60 + if 1000000000 ≤ t.nano then 1 else 0) (t.nano % 1000000000) 0 =
      .ok t := by
  obtain ⟨hfirst, hlast⟩ := t.date_year_bounds
  have hvalid : t.date.isValid = true := Calendar.Date.ofDays_isValid _
  have hdays : t.date.toDays = t.dayNumber := Calendar.Date.toDays_ofDays _
  have hsecond : t.date.toDays * 86400 + ((t.secondOfDay / 3600 : Nat) * 3600 +
      (t.secondOfDay / 60 % 60 : Nat) * 60 + (t.secondOfDay % 60 : Nat) : Int) - 0 = t.second := by
    have hsum := t.second_eq
    rw [hdays]
    omega
  unfold resolve
  rw [if_neg (by simp [hvalid]; omega), leapParts]
  dsimp only
  rw [hsecond, Instant.ofParts?_self]

theorem read_wireChars (t : Instant) : read (wireChars t) = .ok t := by
  obtain ⟨hmonth, hday⟩ := (Calendar.Date.isValid_iff t.date).mp (Calendar.Date.ofDays_isValid _)
  have hlength := Calendar.monthLength_le (Calendar.isLeap t.date.year) t.date.month
  have hclock := t.secondOfDay_lt
  have hleap : t.secondOfDay % 60 + (if 1000000000 ≤ t.nano then 1 else 0) ≤ 60 := by
    split <;> omega
  have readYear := year_yearChars t.date_year_bounds
  have readDash (rest : List Char) : literal '-' ('-' :: rest) = .ok rest :=
    literal_cons (by decide) rest
  have readColon (rest : List Char) : literal ':' (':' :: rest) = .ok rest :=
    literal_cons (by decide) rest
  have readMonth := ranged_padded (by decide) (show t.date.month < 10 ^ 2 by omega) hmonth
  have readDay := ranged_padded (by decide) (show t.date.day < 10 ^ 2 by omega)
    (show 1 ≤ t.date.day ∧ t.date.day ≤ 31 by omega)
  have readHour := ranged_padded (by decide) (show t.secondOfDay / 3600 < 10 ^ 2 by omega)
    (show 0 ≤ t.secondOfDay / 3600 ∧ t.secondOfDay / 3600 ≤ 23 by omega)
  have readMinute := ranged_padded (by decide) (show t.secondOfDay / 60 % 60 < 10 ^ 2 by omega)
    (show 0 ≤ t.secondOfDay / 60 % 60 ∧ t.secondOfDay / 60 % 60 ≤ 59 by omega)
  have readSecond := ranged_padded (by decide)
    (show t.secondOfDay % 60 + (if 1000000000 ≤ t.nano then 1 else 0) < 10 ^ 2 by omega)
    ⟨Nat.zero_le _, hleap⟩
  have readFraction := fraction_fractionChars (Nat.mod_lt t.nano (by decide))
  simp only [read, wireChars, instantChars, dateChars, timeChars, List.append_assoc,
    List.cons_append, bind, Except.bind, readYear, readDash, readMonth, readDay, true_or, if_true,
    readHour, readColon, readMinute, readSecond, readFraction]
  exact resolve_parts t

def isStampChar (c : Char) : Bool := c.isDigit || ['+', '-', '.', ':', 'T', 'Z'].contains c

theorem all_padded (width n : Nat) : (padded width n).all isStampChar = true := by
  rw [List.all_eq_true]
  intro c hc
  rw [isStampChar, isDigit_of_mem_padded hc, Bool.true_or]

theorem all_yearChars (y : Int) : (yearChars y).all isStampChar = true := by
  unfold yearChars
  split
  · exact all_padded _ _
  · rw [List.all_cons, all_padded, Bool.and_true]
    split <;> rfl

theorem all_fractionChars (nano : Nat) : (fractionChars nano).all isStampChar = true := by
  have hpoint (width n : Nat) : ('.' :: padded width n).all isStampChar = true := by
    rw [List.all_cons, all_padded, Bool.and_true]
    rfl
  unfold fractionChars
  repeat' split
  · rfl
  · exact hpoint _ _
  · exact hpoint _ _
  · exact hpoint _ _

theorem all_wireChars (t : Instant) : (wireChars t).all isStampChar = true := by
  have hmarks : isStampChar '-' = true ∧ isStampChar ':' = true ∧ isStampChar 'T' = true ∧
      isStampChar 'Z' = true := by decide
  simp only [wireChars, instantChars, dateChars, timeChars, List.all_append, List.all_cons,
    List.all_nil, all_yearChars, all_padded, all_fractionChars, hmarks, Bool.and_true]

end Stamp

end Crossover
