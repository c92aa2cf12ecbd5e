import Crossover.Number.Reading
import Crossover.Proofs.Json.Grammar
import Crossover.Proofs.Number.Finite

/-!
# The range of decimals

A decimal is read as a finite number just if it is below the overflow bound. A number of a JSON
text is either refused or read as a finite number.
-/

namespace Crossover

open Rounding Float.Model Float.Model.UnpackedFloat

/-! ## Small numbers and powers of ten -/

theorem atMost_roundNat {n : ℕ} (hn : n < 2 ^ 64) : AtMost 12 (round .binary64 .positive n 0) := by
  let shifted := decreaseExponent n 0 (Format.binary64.targetExponent (totalExponent n 0))
  change AtMost 12 (roundWithAccuracy .binary64 .positive shifted.1 shifted.2 .exact)
  simp only [shifted, decreaseExponent]
  generalize (0 - Format.binary64.targetExponent (totalExponent n 0)).toNat = shift
  have hlt : n <<< shift < 2 ^ (64 + shift) := by
    rw [Nat.shiftLeft_eq, pow_add]
    exact Nat.mul_lt_mul_of_pos_right hn (Nat.two_pow_pos shift)
  have hlog := log2_lt (by omega) hlt
  exact atMost_round (by norm_num) (by omega) (by omega) _ _

theorem atMost_word (n : UInt64) : AtMost 12
    (UnpackedFloat.normalize .binary64 (n.toNat : ℤ) 0 .positive) := by
  unfold UnpackedFloat.normalize
  split
  · next h => exact absurd (Int.compare_eq_lt.mp h) (by omega)
  · trivial
  · exact atMost_roundNat n.toNat_lt

theorem canonical_toFloat (n : UInt64) : Canonical 12 n.toFloat.toModel.unpack :=
  canonical_pack (by norm_num) (by norm_num) (atMost_word n)

theorem isFinite_toFloat (n : UInt64) : n.toFloat.isFinite = true :=
  (isFinite_pack _).mpr ((atMost_word n).mono (by norm_num))

theorem overflow_eq : overflow = (18014398509481983 * 2 ^ 970 : ℕ) := by
  rw [overflow, Nat.cast_mul, Nat.cast_pow, zpow_ofNat]
  norm_num

/-- The bound is between the powers of ten with exponents 308 and 310. -/
theorem overflow_bounds :
    10 ^ 308 < 18014398509481983 * 2 ^ 970 ∧ 18014398509481983 * 2 ^ 970 ≤ 10 ^ 310 := by
  decide +kernel

theorem ten_pow_lt_overflow {e : ℕ} (he : e ≤ 308) : (10 : ℚ) ^ e < overflow := by
  have hlt : 10 ^ e < 18014398509481983 * 2 ^ 970 :=
    (pow_le_pow_right₀ (by decide) he).trans_lt overflow_bounds.1
  rw [overflow_eq]
  exact_mod_cast hlt

theorem overflow_le_ten_pow {e : ℕ} (he : 310 ≤ e) : overflow ≤ 10 ^ e := by
  have hle : 18014398509481983 * 2 ^ 970 ≤ 10 ^ e :=
    overflow_bounds.2.trans (pow_le_pow_right₀ (by decide) he)
  rw [overflow_eq]
  exact_mod_cast hle

/-- The powers of ten that are exact, in the table and computed. -/
theorem large_smallPowers : ∀ e : Fin Float.exactlyRepresentablePowersOfTen.size,
    Large 21 Float.exactlyRepresentablePowersOfTen[e].toModel.unpack ∧
      Large 971 (Json.Digits.powerOfTen e).toModel.unpack := by
  decide +kernel

/-! ## Exact decimals -/

theorem ofScientific_up {m : ℕ} (hm : 0 < m) {e : ℕ} (he : e ≤ 2048) :
    UnpackedFloat.ofScientific .binary64 m e =
      mul .binary64 (.finite .positive (m <<< 53) (-53) (Nat.shiftLeft_pos_iff.mpr hm))
        (.finite .positive (10 ^ e) 0 (Nat.pow_pos (by decide))) := by
  have hlow : ¬ (e : ℤ) < -((2 ^ 11 : ℤ) + m.log2) := by omega
  have hhigh : ¬ (e : ℤ) > 2 ^ 11 := by omega
  rw [UnpackedFloat.ofScientific, dif_neg (Nat.ne_of_gt hm), if_neg hhigh, if_neg hlow,
    if_pos (Int.natCast_nonneg e)]
  rfl

theorem ofScientific_down {m : ℕ} (hm : 0 < m) {k : ℕ} (hk : 0 < k) (hmax : k ≤ 2048 + m.log2) :
    UnpackedFloat.ofScientific .binary64 m (-k) =
      div .binary64 (.finite .positive m 0 hm)
        (.finite .positive (10 ^ k) 0 (Nat.pow_pos (by decide))) := by
  have hlow : ¬ (-k : ℤ) < -((2 ^ 11 : ℤ) + m.log2) := by omega
  have hhigh : ¬ (-k : ℤ) > 2 ^ 11 := by omega
  rw [UnpackedFloat.ofScientific, dif_neg (Nat.ne_of_gt hm), if_neg hhigh, if_neg hlow,
    if_neg (by omega)]
  simp only [Int.neg_neg, Int.toNat_natCast]

theorem le_log2_mul {m n : ℕ} (hm : 0 < m) (hn : 0 < n) : 53 ≤ (m <<< 53 * n).log2 := by
  have hle : 2 ^ 53 ≤ m <<< 53 * n := by
    rw [Nat.shiftLeft_eq]
    exact (Nat.le_mul_of_pos_left _ hm).trans (Nat.le_mul_of_pos_right _ hn)
  exact (Nat.le_log2 (by omega)).mpr hle

theorem one_lt_overflow : (1 : ℚ) < overflow := by
  have hlt := ten_pow_lt_overflow (e := 0) (by decide)
  rwa [pow_zero] at hlt

theorem overflow_le_mul_ten_pow {m e : ℕ} (hm : 0 < m) (he : 310 ≤ e) :
    overflow ≤ m * 10 ^ e := by
  have hone : (1 : ℚ) ≤ m := by exact_mod_cast hm
  exact (overflow_le_ten_pow he).trans (le_mul_of_one_le_left (by positivity) hone)

theorem div_ten_pow_lt_one {m k : ℕ} (h : m.log2 < k) : (m / 10 ^ k : ℚ) < 1 := by
  have hlt : m < 10 ^ k := by
    calc m < 2 ^ (m.log2 + 1) := Nat.lt_log2_self
      _ ≤ 2 ^ k := Nat.pow_le_pow_right (by decide) h
      _ ≤ 10 ^ k := Nat.pow_le_pow_left (by decide) k
  rw [div_lt_one (by positivity)]
  exact_mod_cast hlt

/-- A decimal is rounded to a number that fits just if it is below the bound. -/
theorem fits_ofScientific_iff {m : ℕ} (hm : 0 < m) (e : ℤ) :
    Fits (UnpackedFloat.ofScientific .binary64 m e) ↔ (m : ℚ) * 10 ^ e < overflow := by
  have hne : m ≠ 0 := Nat.ne_of_gt hm
  have hpow : (2 : ℤ) ^ Format.binary64.exponentBits = 2048 := rfl
  cases e with
  | ofNat k =>
      change Fits (UnpackedFloat.ofScientific .binary64 m k) ↔ (m : ℚ) * 10 ^ (k : ℤ) < overflow
      rw [zpow_natCast]
      by_cases hk : k ≤ 2048
      · have hbits := le_log2_mul hm (n := 10 ^ k) (Nat.pow_pos (by decide))
        have hvalue : ((m <<< 53 : ℕ) * 2 ^ (-53 : ℤ) : ℚ) * ((10 ^ k : ℕ) * 2 ^ (0 : ℤ)) =
            m * 10 ^ k := by
          rw [Nat.shiftLeft_eq, Nat.cast_mul, Nat.cast_pow, Nat.cast_pow]
          norm_num
          field_simp
        rw [ofScientific_up hm hk, fits_mul_iff _ _ (.inl (by omega)), hvalue]
      · have hlarge : UnpackedFloat.ofScientific .binary64 m k = .infinity .positive := by
          rw [UnpackedFloat.ofScientific, dif_neg hne]
          exact if_pos (by omega)
        rw [hlarge]
        exact iff_of_false id (not_lt.mpr (overflow_le_mul_ten_pow hm (by omega)))
  | negSucc k =>
      change Fits (UnpackedFloat.ofScientific .binary64 m (-(k + 1 : ℕ))) ↔
        (m : ℚ) * 10 ^ (-(k + 1 : ℕ) : ℤ) < overflow
      rw [zpow_neg, zpow_natCast, ← div_eq_mul_inv]
      by_cases hk : k + 1 ≤ 2048 + m.log2
      · have hvalue : (m * 2 ^ (0 : ℤ) : ℚ) / ((10 ^ (k + 1) : ℕ) * 2 ^ (0 : ℤ)) =
            m / 10 ^ (k + 1) := by
          rw [zpow_zero, mul_one, mul_one, Nat.cast_pow]
          rfl
        rw [ofScientific_down hm k.succ_pos hk, fits_div_iff, hvalue]
      · have hsmall : UnpackedFloat.ofScientific .binary64 m (-(k + 1 : ℕ)) = .zero .positive := by
          rw [UnpackedFloat.ofScientific, dif_neg hne, if_neg (by omega)]
          exact if_pos (by omega)
        rw [hsmall]
        exact iff_of_true trivial ((div_ten_pow_lt_one (by omega)).trans one_lt_overflow)

/-! ## Decimals as they are read -/

theorem ofScientific_small {m : ℕ} {e : ℤ} (h : m < 2 ^ 53 ∧ e.natAbs ≤ 22) :
    ∃ power, Large 21 power.toModel.unpack ∧ Float.ofScientific m (decide (e < 0)) e.natAbs =
      if e < 0 then m.toUInt64.toFloat / power else m.toUInt64.toFloat * power := by
  refine ⟨_, (large_smallPowers ⟨e.natAbs, Nat.lt_succ_of_le h.2⟩).1, ?_⟩
  rw [Float.ofScientific, dif_pos h]
  simp only [decide_eq_true_eq]
  rfl

theorem ofScientific_large {m : ℕ} {e : ℤ} (h : ¬ (m < 2 ^ 53 ∧ e.natAbs ≤ 22)) :
    Float.ofScientific m (decide (e < 0)) e.natAbs =
      ⟨Float.Model.pack (UnpackedFloat.ofScientific .binary64 m e)⟩ := by
  have hsign : (if decide (e < 0) = true then Int.negOfNat e.natAbs else Int.ofNat e.natAbs) = e := by
    split_ifs with hneg
    · have hneg := of_decide_eq_true hneg
      rw [Int.negOfNat_eq, Int.ofNat_eq_natCast]
      omega
    · have hneg := of_decide_eq_false (Bool.eq_false_iff.mpr hneg)
      rw [Int.ofNat_eq_natCast]
      omega
  rw [Float.ofScientific, dif_neg h]
  dsimp only
  rw [hsign]
  rfl

theorem small_lt_overflow {m : ℕ} {e : ℤ} (hm : m < 2 ^ 53) (he : e ≤ 22) :
    (m : ℚ) * 10 ^ e < overflow := by
  have hcast : (m : ℚ) ≤ 10 ^ 16 := by exact_mod_cast hm.le.trans (by norm_num)
  have hpow : (10 : ℚ) ^ e ≤ 10 ^ (22 : ℤ) := zpow_le_zpow_right₀ (by norm_num) he
  calc (m : ℚ) * 10 ^ e ≤ 10 ^ 16 * 10 ^ (22 : ℤ) :=
        mul_le_mul hcast hpow (by positivity) (by positivity)
    _ = 10 ^ 38 := by norm_num
    _ < overflow := ten_pow_lt_overflow (by decide)

theorem isFinite_ofScientific_iff (m : ℕ) (e : ℤ) :
    (Float.ofScientific m (decide (e < 0)) e.natAbs).isFinite = true ↔
      (m : ℚ) * 10 ^ e < overflow := by
  by_cases hsmall : m < 2 ^ 53 ∧ e.natAbs ≤ 22
  · obtain ⟨power, hpower, hvalue⟩ := ofScientific_small hsmall
    rw [hvalue]
    refine iff_of_true ?_ (small_lt_overflow hsmall.1 (by omega))
    split_ifs
    · exact isFinite_div (isFinite_toFloat _) hpower
    · exact isFinite_mul (canonical_toFloat _) hpower.canonical (by norm_num)
  · rw [ofScientific_large hsmall]
    rcases Nat.eq_zero_or_pos m with rfl | hm
    · refine iff_of_true ((isFinite_pack _).mpr ?_) ?_
      · rw [UnpackedFloat.ofScientific, dif_pos rfl]
        trivial
      · rw [Nat.cast_zero, zero_mul]
        exact one_pos.trans one_lt_overflow
    · exact (isFinite_pack _).trans (fits_ofScientific_iff hm e)

/-! ## Texts of decimals -/

theorem lt_ten_pow_length (n : ℕ) : n < 10 ^ (Nat.toDigits 10 n).length := by
  have hpos := List.length_pos_of_ne_nil (Nat.toDigits_ne_nil (b := 10) (n := n))
  exact (Nat.length_toDigits_le_iff (by decide) hpos).mp (Nat.le_refl _)

theorem ten_pow_pred_length_le {n : ℕ} (hn : 0 < n) :
    10 ^ ((Nat.toDigits 10 n).length - 1) ≤ n := by
  rcases Nat.eq_zero_or_pos ((Nat.toDigits 10 n).length - 1) with hone | hmore
  · rw [hone]
    exact hn
  · have hlong : ¬ (Nat.toDigits 10 n).length ≤ (Nat.toDigits 10 n).length - 1 := by omega
    exact Nat.le_of_not_lt fun h =>
      hlong ((Nat.length_toDigits_le_iff (by decide) hmore).mpr h)

/-- Skipping far exponents does not change what is finite. -/
theorem isFinite_nearest_iff (digits : ℕ) (e : ℤ) :
    (NumberText.nearest digits e).isFinite = true ↔ (digits : ℚ) * 10 ^ e < overflow := by
  have hpow : (0 : ℚ) < 10 ^ e := zpow_pos (by norm_num) e
  unfold NumberText.nearest
  generalize hlength : (Nat.toDigits 10 digits).length = length
  dsimp only
  split_ifs with hlow hhigh
  · refine iff_of_true isFinite_zero ?_
    rcases Nat.eq_zero_or_pos digits with rfl | hdigits
    · rw [Nat.cast_zero, zero_mul]
      exact one_pos.trans one_lt_overflow
    · have hlead : length + e ≤ 0 := by omega
      have hlt : (digits : ℚ) < 10 ^ length := by
        rw [← hlength]
        exact_mod_cast lt_ten_pow_length digits
      calc (digits : ℚ) * 10 ^ e < 10 ^ length * 10 ^ e := mul_lt_mul_of_pos_right hlt hpow
        _ = 10 ^ (length + e : ℤ) := by rw [zpow_add₀ (by norm_num), zpow_natCast]
        _ ≤ 1 := zpow_le_one_of_nonpos₀ (by norm_num) hlead
        _ < overflow := one_lt_overflow
  · refine iff_of_false (not_isFinite_div_zero 1.0) (not_lt.mpr ?_)
    have hle : (10 : ℚ) ^ (length - 1) ≤ digits := by
      rw [← hlength]
      exact_mod_cast ten_pow_pred_length_le (by omega)
    calc overflow ≤ 10 ^ 310 := overflow_le_ten_pow (Nat.le_refl 310)
      _ = 10 ^ (310 : ℤ) := (zpow_natCast _ _).symm
      _ ≤ 10 ^ ((length - 1 : ℕ) + e : ℤ) := zpow_le_zpow_right₀ (by norm_num) (by omega)
      _ = 10 ^ (length - 1) * 10 ^ e := by rw [zpow_add₀ (by norm_num), zpow_natCast]
      _ ≤ digits * 10 ^ e := mul_le_mul_of_nonneg_right hle hpow.le
  · exact isFinite_ofScientific_iff digits e

/-! ## Numbers of a text -/

theorem isFinite_ofNat {n : ℕ} (hn : n ≤ Json.Digits.largest) :
    (Float.ofNat n).isFinite = true := by
  refine (isFinite_ofScientific_iff n 0).mpr ?_
  have hle : n ≤ 10 ^ 20 := hn.trans (by decide)
  rw [zpow_zero, mul_one]
  exact lt_of_le_of_lt (by exact_mod_cast hle) (ten_pow_lt_overflow (e := 20) (by decide))

theorem isFinite_of_large {x : Float} {top : ℤ} (h : Large top x.toModel.unpack) :
    x.isFinite = true := by
  change x.toModel.unpack.isFinite = true
  generalize x.toModel.unpack = u at h
  cases u with
  | finite => rfl
  | zero => cases h
  | infinity => cases h
  | notANumber => cases h

theorem large_powerOfTen {e : ℕ} (he : e ≤ 308) :
    Large 971 (Json.Digits.powerOfTen e).toModel.unpack := by
  by_cases hsmall : e ≤ 22
  · exact (large_smallPowers ⟨e, Nat.lt_succ_of_le hsmall⟩).2
  · have hlarge : ¬ (1 < 2 ^ 53 ∧ (e : ℤ).natAbs ≤ 22) := fun h => hsmall h.2
    have hfits := (fits_ofScientific_iff one_pos e).mpr (by
      rw [Nat.cast_one, one_mul, zpow_natCast]
      exact ten_pow_lt_overflow he)
    have hbits := le_log2_mul one_pos (n := 10 ^ e) (Nat.pow_pos (by decide))
    have hpower := ofScientific_large hlarge
    rw [ofScientific_up one_pos (by omega)] at hfits hpower
    change Large 971 (Float.ofScientific 1 (decide ((e : ℤ) < 0)) (e : ℤ).natAbs).toModel.unpack
    rw [hpower]
    exact large_round (by omega) (by omega) hfits

theorem isFinite_div_powerOfTen {x : Float} {e : ℕ} (hx : x.isFinite = true) (he : e ≤ 308) :
    (x / Json.Digits.powerOfTen e).isFinite = true :=
  isFinite_div hx (large_powerOfTen he)

/-- Scaling leaves out what is too large. -/
theorem isFinite_scaled {fuel : ℕ} {x y : Float} {e : ℤ} (hx : x.isFinite = true)
    (h : Json.Digits.scaled? fuel x e = some y) : y.isFinite = true := by
  induction fuel generalizing x e with
  | zero =>
      cases h
      exact hx
  | succ fuel ih =>
      rw [Json.Digits.scaled?] at h
      dsimp only at h
      split_ifs at h with hnear hup hinf
      · cases h
        have hpower := isFinite_of_large (large_powerOfTen hnear)
        exact isFinite_mul_of_not_isInf hx hpower (Bool.eq_false_iff.mpr hinf)
      · cases h
        exact isFinite_div_powerOfTen hx hnear
      · cases h
        exact hx
      · exact ih (isFinite_div_powerOfTen hx (Nat.le_refl 308)) h

theorem collect_le {word : ℕ} (h : word ≤ Json.Digits.largest) (ds : List Char) :
    (Json.Digits.collect word ds).1 ≤ Json.Digits.largest := by
  induction ds generalizing word with
  | nil => exact h
  | cons d ds ih =>
      rw [Json.Digits.collect]
      split_ifs with hmore
      · exact ih hmore
      · exact h

theorem isFinite_real? {negative : Bool} {word : ℕ} {e : ℤ} {n : Json.Number}
    (hword : word ≤ Json.Digits.largest) (h : Json.Digits.real? negative word e = some n) :
    n.toFloat.isFinite = true := by
  obtain ⟨x, hx, rfl⟩ := Option.map_eq_some_iff.mp h
  exact (isFinite_signed negative x).trans (isFinite_scaled (isFinite_ofNat hword) hx)

theorem isFinite_scaledBy? {negative down : Bool} {word e : ℕ} {start : ℤ} {n : Json.Number}
    (hword : word ≤ Json.Digits.largest)
    (h : Json.Digits.scaledBy? negative word start down e = some n) :
    n.toFloat.isFinite = true := by
  unfold Json.Digits.scaledBy? at h
  split at h
  · exact isFinite_real? hword h
  · split at h
    · cases h
    · cases h
      exact (isFinite_signed negative 0.0).trans isFinite_zero

theorem isFinite_integer (negative : Bool) {word : ℕ} (hword : word ≤ Json.Digits.largest) :
    (Json.Cursor.integer negative word).toFloat.isFinite = true := by
  have hfinite := isFinite_ofNat hword
  unfold Json.Cursor.integer
  split_ifs
  · exact (isFinite_neg _).trans hfinite
  · exact (isFinite_neg _).trans hfinite
  · exact hfinite

/-- A number that a text spells is finite. -/
theorem Json.SpellsNumber.isFinite {n : Json.Number} {t : List Char} (h : Json.SpellsNumber n t) :
    n.toFloat.isFinite = true := by
  obtain ⟨-, hsome⟩ := h
  rename_i whole fraction exponent
  have hword := collect_le (Nat.zero_le _) whole
  have hsignificand := collect_le hword fraction
  unfold Json.Digits.number? at hsome
  dsimp only at hsome
  split at hsome
  · exact isFinite_scaledBy? hsignificand hsome
  · split at hsome
    · cases hsome
      exact isFinite_integer _ hword
    · exact isFinite_real? hsignificand hsome

end Crossover
