import Crossover.Text.Blank

/-!
# Runs of digits

A run of digits ends before something that is not a digit, and no digit is blank.
-/

namespace Crossover.Text

def PastDigits (cs : List Char) : Prop := ∀ c ∈ cs.head?, c.isDigit = false

theorem PastDigits.cons {c : Char} (h : c.isDigit = false) (cs : List Char) :
    PastDigits (c :: cs) := by
  intro d hd
  cases hd
  exact h

theorem PastDigits.take {cs : List Char} (h : PastDigits cs) (n : Nat) :
    PastDigits (cs.take n) := by
  cases n with
  | zero => simp [PastDigits]
  | succ n =>
      cases cs with
      | nil => simp [PastDigits]
      | cons c rest => exact h

theorem takeWhile_append_pastDigits {ds cs : List Char} (hdigits : ∀ c ∈ ds, c.isDigit = true)
    (h : PastDigits cs) : (ds ++ cs).takeWhile Char.isDigit = ds := by
  rw [List.takeWhile_append_of_pos hdigits]
  cases cs with
  | nil => rw [List.takeWhile_nil, List.append_nil]
  | cons c rest => rw [List.takeWhile_cons_of_neg (by simp [h c rfl]), List.append_nil]

theorem dropWhile_append_pastDigits {ds cs : List Char} (hdigits : ∀ c ∈ ds, c.isDigit = true)
    (h : PastDigits cs) : (ds ++ cs).dropWhile Char.isDigit = cs := by
  rw [List.dropWhile_append_of_pos hdigits]
  cases cs with
  | nil => rw [List.dropWhile_nil]
  | cons c rest => rw [List.dropWhile_cons_of_neg (by simp [h c rfl])]

theorem isBlank_of_isDigit {c : Char} (h : c.isDigit = true) : isBlank c = false := by
  have hdigit : 48 ≤ c.toNat ∧ c.toNat ≤ 57 := Char.isDigit_iff_toNat.mp h
  simp [isBlank, blankRanges]
  omega

theorem ne_sign_of_isDigit {c : Char} (h : c.isDigit = true) : c ≠ '+' ∧ c ≠ '-' := by
  constructor
  · rintro rfl
    cases h
  · rintro rfl
    cases h

theorem trimStart_cons {c : Char} {cs : List Char} (h : isBlank c = false) :
    trimStart (c :: cs) = c :: cs := by
  rw [trimStart, List.dropWhile_cons_of_neg (by simp [h])]

end Crossover.Text
