import Mathlib.Algebra.Group.Nat.Defs
import Mathlib.Tactic.SplitIfs
import Crossover.Proofs.Text.Digits
import Crossover.Time.Interval

/-!
# Texts of intervals

Intervals are read from texts of one form: an amount, which may have a plus sign in front, and
the letter of a unit, with blanks around the two. Such a text is read as its length exactly if
the amount is positive and amount and length fit a 64-bit word, and no other text is read. So
the decimal text of an amount and the letter of a unit are read back.
-/

namespace Crossover

namespace Text

def AllBlank (cs : List Char) : Prop := ∀ c ∈ cs, isBlank c = true

theorem exists_append_trimStart (cs : List Char) :
    ∃ before, AllBlank before ∧ cs = before ++ trimStart cs :=
  ⟨cs.takeWhile isBlank, List.all_eq_true.mp List.all_takeWhile,
    List.takeWhile_append_dropWhile.symm⟩

/-- Trimming takes blanks away at both ends. -/
theorem exists_append_trim (cs : List Char) :
    ∃ before after, AllBlank before ∧ AllBlank after ∧ cs = before ++ (trim cs ++ after) := by
  obtain ⟨before, hbefore, hstart⟩ := exists_append_trimStart cs
  obtain ⟨after, hafter, hend⟩ := exists_append_trimStart (trimStart cs).reverse
  refine ⟨before, after.reverse, hbefore, fun c hc => hafter c (List.mem_reverse.mp hc), ?_⟩
  have hrest : trimStart cs = trim cs ++ after.reverse := by
    rw [trim, ← List.reverse_append, ← hend, List.reverse_reverse]
  rw [← hrest]
  exact hstart

theorem trimStart_append {before : List Char} (hbefore : AllBlank before) {c : Char}
    (hc : isBlank c = false) (cs : List Char) : trimStart (before ++ c :: cs) = c :: cs := by
  rw [trimStart, List.dropWhile_append_of_pos hbefore]
  exact trimStart_cons hc

/-- What starts and ends with characters that are not blank is left over. -/
theorem trim_append {before after core : List Char} (hbefore : AllBlank before)
    (hafter : AllBlank after) (hfirst : ∃ c cs, core = c :: cs ∧ isBlank c = false)
    (hlast : ∃ cs c, core = cs ++ [c] ∧ isBlank c = false) :
    trim (before ++ (core ++ after)) = core := by
  have hstart : trimStart (before ++ (core ++ after)) = core ++ after := by
    obtain ⟨c, cs, rfl, hc⟩ := hfirst
    exact trimStart_append hbefore hc _
  have hend : trimStart (after.reverse ++ core.reverse) = core.reverse := by
    obtain ⟨cs, c, rfl, hc⟩ := hlast
    rw [List.reverse_concat]
    exact trimStart_append (fun d hd => hafter d (List.mem_reverse.mp hd)) hc _
  rw [trim, hstart, List.reverse_append, hend, List.reverse_reverse]

end Text

namespace NumberText

theorem digitsValue_eq_ofDigitChars (ds : List Char) :
    digitsValue ds = Nat.ofDigitChars 10 ds 0 := by
  simp only [digitsValue, digitValue, Nat.ofDigitChars, Nat.mul_comm 10]

/-- The text of a natural number: digits, after a plus sign or none. -/
inductive NaturalText : Nat → List Char → Prop
  | digits {ds : List Char} : ds ≠ [] → (∀ c ∈ ds, c.isDigit = true) →
      NaturalText (Nat.ofDigitChars 10 ds 0) ds
  | plus {ds : List Char} : ds ≠ [] → (∀ c ∈ ds, c.isDigit = true) →
      NaturalText (Nat.ofDigitChars 10 ds 0) ('+' :: ds)

/-- What is read of digits is read of nothing else. -/
theorem of_digits_eq_some_iff {α : Type} {ds : List Char} {o : Option α} {a : α} :
    (if ds.isEmpty || !ds.all Char.isDigit then none else o) = some a ↔
      ds ≠ [] ∧ (∀ c ∈ ds, c.isDigit = true) ∧ o = some a := by
  have hform : (ds.isEmpty || !ds.all Char.isDigit) = true ↔
      ¬ (ds ≠ [] ∧ ∀ c ∈ ds, c.isDigit = true) := by
    rw [← List.all_eq_true]
    cases ds.all Char.isDigit <;> simp
  rw [Option.ite_none_left_eq_some, hform, Decidable.not_not, and_assoc]

theorem digits_read_iff {bound n : Nat} {ds : List Char} :
    (if ds.isEmpty || !ds.all Char.isDigit then none
      else if digitsValue ds ≤ bound then some (digitsValue ds) else none) = some n ↔
    ds ≠ [] ∧ (∀ c ∈ ds, c.isDigit = true) ∧ n = Nat.ofDigitChars 10 ds 0 ∧ n ≤ bound := by
  rw [of_digits_eq_some_iff, digitsValue_eq_ofDigitChars, Option.ite_none_right_eq_some,
    Option.some_inj]
  constructor
  · rintro ⟨hne, hdigits, hbound, rfl⟩
    exact ⟨hne, hdigits, rfl, hbound⟩
  · rintro ⟨hne, hdigits, rfl, hbound⟩
    exact ⟨hne, hdigits, hbound, rfl⟩

/-- A number is read from its texts if it is within the bound, and from nothing else. -/
theorem natural?_eq_some_iff {bound n : Nat} {cs : List Char} :
    natural? bound cs = some n ↔ NaturalText n cs ∧ n ≤ bound := by
  constructor
  · intro h
    unfold natural? at h
    split at h
    · obtain ⟨hne, hdigits, rfl, hbound⟩ := digits_read_iff.mp h
      exact ⟨.plus hne hdigits, hbound⟩
    · obtain ⟨hne, hdigits, rfl, hbound⟩ := digits_read_iff.mp h
      exact ⟨.digits hne hdigits, hbound⟩
  · rintro ⟨htext, hbound⟩
    cases htext with
    | plus hne hdigits => exact digits_read_iff.mpr ⟨hne, hdigits, rfl, hbound⟩
    | digits hne hdigits =>
        unfold natural?
        split
        -- the sign is no digit
        · cases hdigits '+' List.mem_cons_self
        · exact digits_read_iff.mpr ⟨hne, hdigits, rfl, hbound⟩

theorem NaturalText.first {n : Nat} {cs : List Char} (h : NaturalText n cs) :
    ∃ c rest, cs = c :: rest ∧ Text.isBlank c = false := by
  cases h with
  | plus => exact ⟨'+', _, rfl, rfl⟩
  | digits hne hdigits =>
      obtain ⟨d, ds, rfl⟩ := List.exists_cons_of_ne_nil hne
      exact ⟨d, ds, rfl, Text.isBlank_of_isDigit (hdigits d List.mem_cons_self)⟩

theorem naturalText_toDigits (n : Nat) : NaturalText n (Nat.toDigits 10 n) := by
  have htext := NaturalText.digits (Nat.toDigits_ne_nil (b := 10) (n := n))
    fun c hc => Nat.isDigit_of_mem_toDigits (by decide) (by decide) hc
  rwa [Nat.ofDigitChars_ten_toDigits] at htext

end NumberText

namespace Interval

open NumberText (NaturalText largestWord)
open Text (AllBlank)

/-- The letters of the units, and how many seconds each of them lasts. -/
def units : List (Char × Nat) :=
  [('s', 1), ('m', 60), ('h', 60 * 60), ('d', 24 * 60 * 60), ('w', 7 * 24 * 60 * 60)]

/-- A text that spells so many units of that many seconds. -/
inductive Spells (amount unit : Nat) : List Char → Prop
  | text {before digits after : List Char} {letter : Char} : AllBlank before →
      NaturalText amount digits → (letter, unit) ∈ units → AllBlank after →
      Spells amount unit (before ++ (digits ++ [letter] ++ after))

theorem unitSeconds?_eq_some_iff {c : Char} {unit : Nat} :
    unitSeconds? c = some unit ↔ (c, unit) ∈ units := by
  unfold unitSeconds?
  split <;> simp_all [units, eq_comm]

theorem isBlank_of_mem_units {c : Char} {unit : Nat} (h : (c, unit) ∈ units) :
    Text.isBlank c = false := by
  have hall : ∀ u ∈ units, Text.isBlank u.1 = false := by decide
  exact hall _ h

theorem one_le_of_mem_units {c : Char} {unit : Nat} (h : (c, unit) ∈ units) : 1 ≤ unit := by
  have hall : ∀ u ∈ units, 1 ≤ u.2 := by decide
  exact hall _ h

theorem trimmed?_concat (digits : List Char) (c : Char) :
    trimmed? (digits ++ [c]) = (unitSeconds? c).bind fun unit =>
      (NumberText.natural? largestWord digits).bind fun amount =>
        if amount = 0 ∨ largestWord < amount * unit then none else some (amount * unit) := by
  simp only [trimmed?, List.getLast?_concat, List.dropLast_concat]
  rfl

theorem trimmed?_eq_some {cs : List Char} {d : Nat} (h : trimmed? cs = some d) :
    ∃ digits c, cs = digits ++ [c] := by
  cases hlast : cs.getLast? with
  | none => simp [trimmed?, hlast] at h
  | some c =>
      obtain ⟨digits, rfl⟩ := List.getLast?_eq_some_iff.mp hlast
      exact ⟨digits, c, rfl⟩

theorem seconds?_eq_some_iff {text : String} {d : Nat} :
    seconds? text = some d ↔ ∃ amount unit, Spells amount unit text.toList ∧
      1 ≤ amount ∧ amount ≤ largestWord ∧ amount * unit ≤ largestWord ∧ d = amount * unit := by
  constructor
  · intro h
    obtain ⟨before, after, hbefore, hafter, htext⟩ := Text.exists_append_trim text.toList
    obtain ⟨digits, c, hcore⟩ := trimmed?_eq_some h
    rw [seconds?, hcore, trimmed?_concat] at h
    obtain ⟨unit, hunit, h⟩ := Option.bind_eq_some_iff.mp h
    obtain ⟨amount, hamount, h⟩ := Option.bind_eq_some_iff.mp h
    obtain ⟨hdigits, hbound⟩ := NumberText.natural?_eq_some_iff.mp hamount
    split_ifs at h with hout
    cases h
    refine ⟨amount, unit, ?_, by omega, hbound, by omega, rfl⟩
    rw [htext, hcore]
    exact .text hbefore hdigits (unitSeconds?_eq_some_iff.mp hunit) hafter
  · rintro ⟨amount, unit, hspells, hpos, hbound, hlength, rfl⟩
    generalize hcs : text.toList = cs at hspells
    obtain ⟨hbefore, hdigits, hunit, hafter⟩ := hspells
    obtain ⟨c, rest, hfirst, hc⟩ := hdigits.first
    rw [seconds?, hcs, Text.trim_append hbefore hafter
      ⟨c, rest ++ [_], by rw [hfirst, List.cons_append], hc⟩
      ⟨_, _, rfl, isBlank_of_mem_units hunit⟩, trimmed?_concat,
      unitSeconds?_eq_some_iff.mpr hunit, Option.bind_some,
      NumberText.natural?_eq_some_iff.mpr ⟨hdigits, hbound⟩, Option.bind_some]
    exact if_neg (by omega)

/-- No interval is empty. -/
theorem one_le_seconds {text : String} {d : Nat} (h : seconds? text = some d) : 1 ≤ d := by
  obtain ⟨amount, unit, hspelled, hpos, -, -, rfl⟩ := seconds?_eq_some_iff.mp h
  generalize text.toList = cs at hspelled
  obtain ⟨-, -, hunit, -⟩ := hspelled
  exact Nat.mul_pos hpos (one_le_of_mem_units hunit)

theorem spells_format (amount : Nat) {letter : Char} {unit : Nat} (h : (letter, unit) ∈ units) :
    Spells amount unit (toString amount ++ String.singleton letter).toList := by
  have htext : (toString amount ++ String.singleton letter).toList =
      [] ++ (Nat.toDigits 10 amount ++ [letter] ++ []) := by
    rw [String.toList_append, String.toList_singleton, Nat.toString_eq_repr, Nat.toList_repr,
      List.nil_append, List.append_nil]
  rw [htext]
  exact .text (by simp [AllBlank]) (NumberText.naturalText_toDigits amount) h (by simp [AllBlank])

/-- A text is read as a length exactly if it spells a positive amount of a unit, and amount and
length fit a 64-bit word. All other texts are refused. What an amount and a unit are written as
is read back. -/
theorem read_iff_spelled :
    (∀ text d, seconds? text = some d ↔ ∃ amount unit, Spells amount unit text.toList ∧
      1 ≤ amount ∧ amount ≤ 2 ^ 64 - 1 ∧ amount * unit ≤ 2 ^ 64 - 1 ∧ d = amount * unit) ∧
    (∀ text, seconds? text = none ↔ ¬ ∃ amount unit, Spells amount unit text.toList ∧
      1 ≤ amount ∧ amount ≤ 2 ^ 64 - 1 ∧ amount * unit ≤ 2 ^ 64 - 1) ∧
    ∀ amount letter unit, (letter, unit) ∈ units → 1 ≤ amount → amount * unit ≤ 2 ^ 64 - 1 →
      seconds? (toString amount ++ String.singleton letter) = some (amount * unit) := by
  have hlengths (text : String) (d : Nat) := @seconds?_eq_some_iff text d
  refine ⟨hlengths, fun text => ?_, fun amount letter unit hunit hpos hlength => ?_⟩
  · rw [Option.eq_none_iff_forall_ne_some]
    constructor
    · rintro h ⟨amount, unit, hspelled, hpos, hbound, hlength⟩
      exact h _ ((hlengths text _).mpr ⟨amount, unit, hspelled, hpos, hbound, hlength, rfl⟩)
    · intro h d hd
      obtain ⟨amount, unit, hspelled, hpos, hbound, hlength, -⟩ := (hlengths text d).mp hd
      exact h ⟨amount, unit, hspelled, hpos, hbound, hlength⟩
  · have hbound : amount ≤ amount * unit :=
      Nat.le_mul_of_pos_right _ (one_le_of_mem_units hunit)
    exact (hlengths _ _).mpr
      ⟨amount, unit, spells_format amount hunit, hpos, Nat.le_trans hbound hlength, hlength, rfl⟩

/-- The longest interval of whole weeks that fits is read back from its text. -/
theorem longest_weeks_read_back :
    30500568904943 * 604800 ≤ 2 ^ 64 - 1 ∧
      seconds? (toString 30500568904943 ++ String.singleton 'w') = some 18446744073709526400 :=
  ⟨by decide, read_iff_spelled.2.2 30500568904943 'w' 604800 (by decide) (by decide) (by decide)⟩

end Interval

end Crossover
