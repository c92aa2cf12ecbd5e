import Crossover.Proofs.Json.NumberTexts
import Crossover.Proofs.Number.Range
import Crossover.Proofs.Time.Interval

/-!
# Texts of decimals

A decimal has digits before or behind an optional point, and an optional exponent. It is read
from its texts alone, and becomes a finite number just if its value is below the overflow bound.
The words that stand for other numbers are not decimals, and what they are read as is not finite.
-/

namespace Crossover.NumberText

open Json (AllDigits SpellsDirection SpellsExponent)
open Rounding (overflow)
open Text (PastDigits)

/-- Digits before and behind an optional point, at least one of them. -/
inductive SpellsDigits : (whole fraction : List Char) → List Char → Prop
  | whole {d : Char} {ds : List Char} : AllDigits (d :: ds) → SpellsDigits (d :: ds) [] (d :: ds)
  | point {whole fraction : List Char} : AllDigits whole → AllDigits fraction →
      whole ++ fraction ≠ [] → SpellsDigits whole fraction (whole ++ '.' :: fraction)

def exponentValue : Option (Bool × List Char) → ℤ
  | none => 0
  | some (down, ds) => if down then -Nat.ofDigitChars 10 ds 0 else Nat.ofDigitChars 10 ds 0

/-- The text of a decimal without a sign. -/
inductive SpellsDecimal : ℚ → List Char → Prop
  | parts {whole fraction digits tail : List Char} {exponent : Option (Bool × List Char)} :
      SpellsDigits whole fraction digits → SpellsExponent exponent tail →
      SpellsDecimal (Nat.ofDigitChars 10 (whole ++ fraction) 0 *
        10 ^ (exponentValue exponent - fraction.length)) (digits ++ tail)

/-- The text is that of a decimal, of either sign, which is not rounded to infinity. -/
def InRange (cs : List Char) : Prop :=
  ∃ negative sign t v, SpellsDirection negative sign ∧ SpellsDecimal v t ∧ cs = sign ++ t ∧
    v < overflow

/-! ## Signs and exponents -/

theorem exists_signed (cs : List Char) :
    ∃ sign, SpellsDirection (signed cs).1 sign ∧ cs = sign ++ (signed cs).2 := by
  unfold signed
  split
  · exact ⟨_, .minus, rfl⟩
  · exact ⟨_, .plus, rfl⟩
  · exact ⟨_, .none, rfl⟩

theorem signed_append {negative : Bool} {sign : List Char} {c : Char} (cs : List Char)
    (h : SpellsDirection negative sign) (hplus : c ≠ '+') (hminus : c ≠ '-') :
    signed (sign ++ c :: cs) = (negative, c :: cs) := by
  cases h with
  | minus => rfl
  | plus => rfl
  | none => simp [signed, hplus, hminus]

theorem isExponentMark_iff {c : Char} :
    Json.Cursor.isExponentMark c = true ↔ c = 'e' ∨ c = 'E' := by
  simp [Json.Cursor.isExponentMark]

theorem exponentDigits_read_iff {negative : Bool} {ds : List Char} {e : ℤ} :
    (if ds.isEmpty || !ds.all Char.isDigit then none
      else some (if negative then -(digitsValue ds : ℤ) else digitsValue ds)) = some e ↔
    ds ≠ [] ∧ AllDigits ds ∧ e = exponentValue (some (negative, ds)) := by
  rw [of_digits_eq_some_iff, digitsValue_eq_ofDigitChars, Option.some_inj, eq_comm]
  rfl

theorem exponent?_eq_some_iff {tail : List Char} {e : ℤ} :
    exponent? tail = some e ↔
      ∃ exponent, SpellsExponent exponent tail ∧ e = exponentValue exponent := by
  constructor
  · intro h
    cases tail with
    | nil =>
        cases h
        exact ⟨none, .none, rfl⟩
    | cons mark rest =>
        rw [exponent?, Option.ite_none_right_eq_some] at h
        obtain ⟨hmark, h⟩ := h
        obtain ⟨sign, hsign, hrest⟩ := exists_signed rest
        generalize signed rest = parts at h hsign hrest
        obtain ⟨hne, hdigits, he⟩ := exponentDigits_read_iff.mp h
        obtain ⟨d, ds, hcons⟩ := List.exists_cons_of_ne_nil hne
        rw [hcons] at hrest hdigits he
        rw [hrest]
        exact ⟨_, .digits (isExponentMark_iff.mpr hmark) hsign hdigits, he⟩
  · rintro ⟨exponent, hexponent, rfl⟩
    cases hexponent with
    | none => rfl
    | @digits mark d sign ds down hmark hsign hdigits =>
        obtain ⟨hplus, hminus⟩ := Text.ne_sign_of_isDigit (hdigits d List.mem_cons_self)
        rw [exponent?, if_pos (isExponentMark_iff.mp hmark), signed_append ds hsign hplus hminus]
        exact exponentDigits_read_iff.mpr ⟨List.cons_ne_nil d ds, hdigits, rfl⟩

/-! ## Decimals -/

def ofParts? (whole fraction tail : List Char) : Option Float :=
  if whole.isEmpty && fraction.isEmpty then none
  else
    (exponent? tail).map fun e =>
      nearest (digitsValue (whole ++ fraction)) (e - fraction.length)

theorem ofParts?_eq_some_iff {whole fraction tail : List Char} {x : Float} :
    ofParts? whole fraction tail = some x ↔ whole ++ fraction ≠ [] ∧
      ∃ exponent, SpellsExponent exponent tail ∧
        x = nearest (Nat.ofDigitChars 10 (whole ++ fraction) 0)
          (exponentValue exponent - fraction.length) := by
  have hempty : (whole.isEmpty && fraction.isEmpty) = true ↔ whole ++ fraction = [] := by simp
  rw [ofParts?, digitsValue_eq_ofDigitChars, Option.ite_none_left_eq_some, hempty]
  refine and_congr_right fun _ => ?_
  simp only [Option.map_eq_some_iff, exponent?_eq_some_iff]
  constructor
  · rintro ⟨_, ⟨exponent, hexponent, rfl⟩, rfl⟩
    exact ⟨exponent, hexponent, rfl⟩
  · rintro ⟨exponent, hexponent, rfl⟩
    exact ⟨_, ⟨exponent, hexponent, rfl⟩, rfl⟩

def fractionAndTail (cs : List Char) : List Char × List Char :=
  match cs with
  | '.' :: rest => (rest.takeWhile Char.isDigit, rest.dropWhile Char.isDigit)
  | _ => ([], cs)

theorem fractionAndTail_of_ne {cs : List Char} (h : ∀ c ∈ cs.head?, c ≠ '.') :
    fractionAndTail cs = ([], cs) := by
  unfold fractionAndTail
  split
  · exact absurd rfl (h '.' rfl)
  · rfl

theorem decimal?_eq (cs : List Char) :
    decimal? cs = ofParts? (cs.takeWhile Char.isDigit)
      (fractionAndTail (cs.dropWhile Char.isDigit)).1
      (fractionAndTail (cs.dropWhile Char.isDigit)).2 :=
  rfl

theorem decimal?_point {whole fraction tail : List Char} (hwhole : AllDigits whole)
    (hfraction : AllDigits fraction) (htail : PastDigits tail) :
    decimal? (whole ++ '.' :: (fraction ++ tail)) = ofParts? whole fraction tail := by
  have hpoint : PastDigits ('.' :: (fraction ++ tail)) := .cons rfl _
  rw [decimal?_eq, Text.takeWhile_append_pastDigits hwhole hpoint,
    Text.dropWhile_append_pastDigits hwhole hpoint]
  change ofParts? whole ((fraction ++ tail).takeWhile Char.isDigit)
    ((fraction ++ tail).dropWhile Char.isDigit) = ofParts? whole fraction tail
  rw [Text.takeWhile_append_pastDigits hfraction htail,
    Text.dropWhile_append_pastDigits hfraction htail]

theorem decimal?_whole {whole tail : List Char} (hwhole : AllDigits whole)
    (htail : PastDigits tail) (hpoint : ∀ c ∈ tail.head?, c ≠ '.') :
    decimal? (whole ++ tail) = ofParts? whole [] tail := by
  rw [decimal?_eq, Text.takeWhile_append_pastDigits hwhole htail,
    Text.dropWhile_append_pastDigits hwhole htail, fractionAndTail_of_ne hpoint]

theorem pastDigits_of_spellsExponent {exponent : Option (Bool × List Char)} {tail : List Char}
    (h : SpellsExponent exponent tail) : PastDigits tail := by
  have hnil : PastDigits [] := by simp [PastDigits]
  simpa using h.pastDigits hnil

/-- A decimal is read from its texts alone. -/
theorem decimal?_eq_some_iff {cs : List Char} {x : Float} :
    decimal? cs = some x ↔ ∃ whole fraction digits exponent tail,
      SpellsDigits whole fraction digits ∧ SpellsExponent exponent tail ∧ cs = digits ++ tail ∧
      x = nearest (Nat.ofDigitChars 10 (whole ++ fraction) 0)
        (exponentValue exponent - fraction.length) := by
  constructor
  · intro h
    have hsplit := List.takeWhile_append_dropWhile (p := Char.isDigit) (l := cs)
    have hdigits := Json.allDigits_takeWhile cs
    rw [decimal?_eq] at h
    generalize cs.takeWhile Char.isDigit = whole at h hsplit hdigits
    generalize cs.dropWhile Char.isDigit = afterWhole at h hsplit
    obtain ⟨hsome, exponent, hexponent, hx⟩ := ofParts?_eq_some_iff.mp h
    by_cases hpoint : afterWhole.head? = some '.'
    · obtain ⟨rest, rfl⟩ := List.head?_eq_some_iff.mp hpoint
      refine ⟨_, _, _, exponent, _, .point hdigits (Json.allDigits_takeWhile rest) hsome,
        hexponent, ?_, hx⟩
      rw [List.append_assoc, List.cons_append, ← hsplit]
      exact congrArg (whole ++ '.' :: ·) List.takeWhile_append_dropWhile.symm
    · have hne : ∀ c ∈ afterWhole.head?, c ≠ '.' := by
        rintro c hc rfl
        exact hpoint hc
      rw [fractionAndTail_of_ne hne] at hsome hexponent hx
      rw [List.append_nil] at hsome
      obtain ⟨d, ds, rfl⟩ := List.exists_cons_of_ne_nil hsome
      exact ⟨_, [], _, exponent, _, .whole hdigits, hexponent, hsplit.symm, hx⟩
  · rintro ⟨whole, fraction, digits, exponent, tail, hdigits, hexponent, rfl, hx⟩
    have hpast := pastDigits_of_spellsExponent hexponent
    cases hdigits with
    | point hwhole hfraction hsome =>
        rw [List.append_assoc, List.cons_append, decimal?_point hwhole hfraction hpast]
        exact ofParts?_eq_some_iff.mpr ⟨hsome, exponent, hexponent, hx⟩
    | @whole d ds hwhole =>
        have hpoint : ∀ c ∈ tail.head?, c ≠ '.' := by
          rintro c hc rfl
          cases hexponent with
          | none => cases hc
          | digits hmark =>
              cases hc
              cases hmark
        rw [decimal?_whole hwhole hpast hpoint]
        exact ofParts?_eq_some_iff.mpr ⟨by simp, exponent, hexponent, hx⟩

theorem exists_decimal?_iff {cs : List Char} :
    (∃ x, decimal? cs = some x ∧ x.isFinite = true) ↔ ∃ v, SpellsDecimal v cs ∧ v < overflow := by
  constructor
  · rintro ⟨x, hx, hfinite⟩
    obtain ⟨whole, fraction, digits, exponent, tail, hdigits, hexponent, rfl, rfl⟩ :=
      decimal?_eq_some_iff.mp hx
    exact ⟨_, .parts hdigits hexponent, (isFinite_nearest_iff _ _).mp hfinite⟩
  · rintro ⟨v, hdecimal, hv⟩
    obtain ⟨hdigits, hexponent⟩ := hdecimal
    exact ⟨_, decimal?_eq_some_iff.mpr ⟨_, _, _, _, _, hdigits, hexponent, rfl, rfl⟩,
      (isFinite_nearest_iff _ _).mpr hv⟩

/-! ## All numbers -/

theorem word?_not_isFinite {cs : List Char} {x : Float} (h : word? cs = some x) :
    ¬ x.isFinite = true := by
  unfold word? at h
  split at h
  · cases h
    exact not_isFinite_div_zero 1.0
  · cases h
    exact not_isFinite_div_zero 1.0
  · cases h
    exact not_isFinite_div_zero 0.0
  · cases h

theorem SpellsDigits.first {whole fraction digits : List Char}
    (h : SpellsDigits whole fraction digits) :
    ∃ c cs, digits = c :: cs ∧ c ≠ '+' ∧ c ≠ '-' := by
  cases h with
  | @whole d ds hdigits => exact ⟨d, ds, rfl, Text.ne_sign_of_isDigit (hdigits d List.mem_cons_self)⟩
  | point hwhole =>
      cases whole with
      | nil => exact ⟨'.', fraction, rfl, by decide⟩
      | cons d ds => exact ⟨d, _, rfl, Text.ne_sign_of_isDigit (hwhole d List.mem_cons_self)⟩

theorem SpellsDecimal.first {v : ℚ} {t : List Char} (h : SpellsDecimal v t) :
    ∃ c cs, t = c :: cs ∧ c ≠ '+' ∧ c ≠ '-' := by
  obtain ⟨hdigits, -⟩ := h
  obtain ⟨c, cs, rfl, hsign⟩ := hdigits.first
  exact ⟨c, _, rfl, hsign⟩

/-- The texts that are read as finite numbers. -/
theorem exists_float?_iff {cs : List Char} :
    (∃ x, float? cs = some x ∧ x.isFinite = true) ↔ InRange cs := by
  constructor
  · rintro ⟨x, hx, hfinite⟩
    obtain ⟨sign, hsign, hcs⟩ := exists_signed cs
    rw [float?] at hx
    generalize signed cs = parts at hx hsign hcs
    obtain ⟨y, hy, rfl⟩ := Option.map_eq_some_iff.mp hx
    rw [Option.orElse_eq_orElse, Option.orElse_eq_or, Option.or_eq_some_iff] at hy
    rw [isFinite_signed] at hfinite
    rcases hy with hdecimal | ⟨-, hword⟩
    · obtain ⟨v, hv, hrange⟩ := exists_decimal?_iff.mp ⟨y, hdecimal, hfinite⟩
      exact ⟨_, sign, _, v, hsign, hv, hcs, hrange⟩
    · exact absurd hfinite (word?_not_isFinite hword)
  · rintro ⟨negative, sign, t, v, hsign, hv, rfl, hrange⟩
    obtain ⟨c, cs, rfl, hplus, hminus⟩ := hv.first
    obtain ⟨y, hy, hfinite⟩ := exists_decimal?_iff.mpr ⟨v, hv, hrange⟩
    refine ⟨if negative then -y else y, ?_, (isFinite_signed negative y).trans hfinite⟩
    rw [float?, signed_append cs hsign hplus hminus]
    dsimp only
    rw [hy]
    rfl

end Crossover.NumberText
