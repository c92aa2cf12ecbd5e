import Mathlib

/-!
# Rounding and overflow

A binary64 result is rounded from a mantissa and two residual bits, which tell on which side of
the half lies what was cut off. What they represent is followed through the shifts, so that a
result is seen to overflow exactly from the middle between the largest binary64 number and the
next power of two on.
-/

namespace Crossover.Rounding

open Float.Model Float.Model.UnpackedFloat

/-! ## Residual bits -/

/-- The residual bits tell where the number lies between the mantissa and the next one. -/
inductive Represents : ExtendedMantissa → ℚ → Prop
  | exact (m : ℕ) : Represents ⟨m, false, false⟩ m
  | low {m : ℕ} {x : ℚ} : m < x → x < m + 1 / 2 → Represents ⟨m, false, true⟩ x
  | half (m : ℕ) : Represents ⟨m, true, false⟩ (m + 1 / 2)
  | high {m : ℕ} {x : ℚ} : m + 1 / 2 < x → x < m + 1 → Represents ⟨m, true, true⟩ x

theorem Represents.bounds {em : ExtendedMantissa} {x : ℚ} (h : Represents em x) :
    (em.mantissa : ℚ) ≤ x ∧ x < em.mantissa + 1 := by
  cases h with
  | exact m => constructor <;> linarith
  | low hlow hhigh => constructor <;> linarith
  | half m => constructor <;> linarith
  | high hlow hhigh => constructor <;> linarith

theorem shiftRightOne_even (q : ℕ) (round sticky : Bool) :
    (ExtendedMantissa.mk (2 * q) round sticky).shiftRightOne = ⟨q, false, round || sticky⟩ := by
  simp [ExtendedMantissa.shiftRightOne]

theorem shiftRightOne_odd (q : ℕ) (round sticky : Bool) :
    (ExtendedMantissa.mk (2 * q + 1) round sticky).shiftRightOne = ⟨q, true, round || sticky⟩ := by
  have hhalf : (2 * q + 1) / 2 = q := by omega
  simp [ExtendedMantissa.shiftRightOne, hhalf]

theorem Represents.shiftRightOne {em : ExtendedMantissa} {x : ℚ} (h : Represents em x) :
    Represents em.shiftRightOne (x / 2) := by
  obtain ⟨m, round, sticky⟩ := em
  obtain ⟨q, rfl | rfl⟩ := Nat.even_or_odd' m
  · rw [shiftRightOne_even]
    have hcast : ((2 * q : ℕ) : ℚ) = 2 * q := by push_cast; ring
    cases h with
    | exact =>
        rw [hcast, mul_div_cancel_left₀ _ (by norm_num : (2 : ℚ) ≠ 0)]
        exact .exact q
    | low hlow hhigh => exact .low (by linarith) (by linarith)
    | half => exact .low (by linarith) (by linarith)
    | high hlow hhigh => exact .low (by linarith) (by linarith)
  · rw [shiftRightOne_odd]
    have hcast : ((2 * q + 1 : ℕ) : ℚ) = 2 * q + 1 := by push_cast; ring
    cases h with
    | exact =>
        have hvalue : ((2 * q + 1 : ℕ) : ℚ) / 2 = q + 1 / 2 := by rw [hcast]; ring
        rw [hvalue]
        exact .half q
    | low hlow hhigh => exact .high (by linarith) (by linarith)
    | half => exact .high (by linarith) (by linarith)
    | high hlow hhigh => exact .high (by linarith) (by linarith)

theorem Represents.shiftRight {em : ExtendedMantissa} {x : ℚ} (h : Represents em x) (n : ℕ) :
    Represents (em >>> n) (x / 2 ^ n) := by
  change Represents (n.repeat ExtendedMantissa.shiftRightOne em) (x / 2 ^ n)
  induction n with
  | zero =>
      rw [pow_zero, div_one]
      exact h
  | succ n ih =>
      rw [pow_succ, ← div_div]
      exact ih.shiftRightOne

/-- Rounding to even reaches an even bound just if the number lies a half or less below it. -/
theorem Represents.rounded_lt_iff {em : ExtendedMantissa} {x : ℚ} (h : Represents em x) {n : ℕ}
    (hn : Even n) (hm : em.mantissa < n) : em.roundedMantissa < n ↔ x < n - 1 / 2 := by
  obtain ⟨k, rfl⟩ := hn
  cases h with
  | exact m =>
      have hcast : (m : ℚ) + 1 ≤ (k + k : ℕ) := by exact_mod_cast hm
      exact iff_of_true hm (by linarith)
  | @low m x hlow hhigh =>
      have hcast : (m : ℚ) + 1 ≤ (k + k : ℕ) := by exact_mod_cast hm
      exact iff_of_true hm (by linarith)
  | half m =>
      have hrounded : m + m % 2 < k + k ↔ m + 1 < k + k := by
        change m < k + k at hm
        omega
      have hcast : m + 1 < k + k ↔ (m : ℚ) + 1 < (k + k : ℕ) := by exact_mod_cast Iff.rfl
      change m + m % 2 < k + k ↔ _
      rw [hrounded, hcast]
      constructor <;> intro hlt <;> linarith
  | @high m x hlow hhigh =>
      change m + 1 < k + k ↔ _
      constructor
      · intro hlt
        have hcast : (m : ℚ) + 1 + 1 ≤ (k + k : ℕ) := by exact_mod_cast hlt
        linarith
      · intro hlt
        have hcast : (m : ℚ) + 1 < (k + k : ℕ) := by linarith
        exact_mod_cast hcast

/-! ## Shifts -/

theorem shiftRight_mantissa (em : ExtendedMantissa) (n : ℕ) :
    (em >>> n).mantissa = em.mantissa / 2 ^ n := by
  change (n.repeat ExtendedMantissa.shiftRightOne em).mantissa = em.mantissa / 2 ^ n
  induction n with
  | zero => simp [Nat.repeat]
  | succ n ih =>
      rw [pow_succ, ← Nat.div_div_eq_div_mul, ← ih]
      rfl

theorem ofMantissaAndAccuracy_mantissa (m : ℕ) (a : Accuracy) :
    (ExtendedMantissa.ofMantissaAndAccuracy m a).mantissa = m := by
  obtain _ | o := a
  · rfl
  · cases o <;> rfl

theorem targetExponent_eq (m : ℕ) (e : ℤ) :
    Format.binary64.targetExponent (totalExponent m e) = max (m.log2 + e - 52) (-1074) := by
  simp only [Format.targetExponent, totalExponent, Format.mantissaBits, Format.minExponent]
  norm_num
  omega

def distance (m : ℕ) (e : ℤ) : ℕ := (max (m.log2 + e - 52) (-1074) - e).toNat

theorem shiftToTargetExponent_eq (m : ℕ) (e : ℤ) (a : Accuracy) :
    shiftToTargetExponent .binary64 m e a =
      (ExtendedMantissa.ofMantissaAndAccuracy m a >>> distance m e, e + distance m e) := by
  rw [shiftToTargetExponent, targetExponent_eq]
  rfl

theorem div_distance_lt (m : ℕ) (e : ℤ) : m / 2 ^ distance m e < 2 ^ 53 := by
  rw [Nat.div_lt_iff_lt_mul (Nat.two_pow_pos _), ← pow_add]
  have hle : m.log2 + 1 ≤ 53 + distance m e := by
    unfold distance
    omega
  exact Nat.lt_log2_self.trans_le (Nat.pow_le_pow_right (by decide) hle)

theorem le_div_distance {m : ℕ} {e : ℤ} (hm : m ≠ 0) (h : m.log2 = 52 + distance m e) :
    2 ^ 52 ≤ m / 2 ^ distance m e := by
  rw [Nat.le_div_iff_mul_le (Nat.two_pow_pos _), ← pow_add, ← h]
  exact Nat.log2_self_le hm

theorem log2_lt {n k : ℕ} (hk : 0 < k) (h : n < 2 ^ k) : n.log2 < k := by
  rcases Nat.eq_zero_or_pos n with rfl | hpos
  · rwa [Nat.log2_zero]
  · exact (Nat.log2_lt (Nat.ne_of_gt hpos)).mpr h

/-- A mantissa of 53 bits is not shifted again; one that was rounded up to the next power of two
is shifted by one bit. -/
theorem shiftToTargetExponent_small {m : ℕ} {e : ℤ} (hm : m < 2 ^ 53) (he : -1074 ≤ e) :
    shiftToTargetExponent .binary64 m e .exact = (⟨m, false, false⟩, e) := by
  have hlog : m.log2 < 53 := log2_lt (by decide) hm
  have hdistance : distance m e = 0 := by
    unfold distance
    omega
  rw [shiftToTargetExponent_eq, hdistance, Int.natCast_zero, Int.add_zero]
  rfl

theorem shiftToTargetExponent_carry {e : ℤ} (he : -1074 ≤ e) :
    shiftToTargetExponent .binary64 (2 ^ 53) e .exact = (⟨2 ^ 52, false, false⟩, e + 1) := by
  have hdistance : distance (2 ^ 53) e = 1 := by
    rw [distance, Nat.log2_two_pow]
    omega
  rw [shiftToTargetExponent_eq, hdistance]
  rfl

theorem le_roundedMantissa (em : ExtendedMantissa) : em.mantissa ≤ em.roundedMantissa := by
  obtain ⟨m, round, sticky⟩ := em
  cases round <;> cases sticky
  · exact Nat.le_refl m
  · exact Nat.le_refl m
  · exact Nat.le_add_right m _
  · exact Nat.le_add_right m 1

theorem roundedMantissa_le (em : ExtendedMantissa) : em.roundedMantissa ≤ em.mantissa + 1 := by
  obtain ⟨m, round, sticky⟩ := em
  cases round <;> cases sticky
  · exact Nat.le_add_right m 1
  · exact Nat.le_add_right m 1
  · change m + m % 2 ≤ m + 1
    omega
  · exact Nat.le_refl (m + 1)

theorem roundWithAccuracy_eq (s : Sign) (m : ℕ) (e : ℤ) (a : Accuracy) :
    let em := ExtendedMantissa.ofMantissaAndAccuracy m a >>> distance m e
    roundWithAccuracy .binary64 s m e a =
      if h : em.roundedMantissa = 0 then .zero s
      else if em.roundedMantissa < 2 ^ 53 then
        .finite s em.roundedMantissa (e + distance m e) (Nat.pos_of_ne_zero h)
      else .finite s (2 ^ 52) (e + distance m e + 1) (by decide) := by
  intro em
  have he : -1074 ≤ e + distance m e := by
    unfold distance
    omega
  have hmantissa : em.mantissa < 2 ^ 53 := by
    change (ExtendedMantissa.ofMantissaAndAccuracy m a >>> distance m e).mantissa < 2 ^ 53
    rw [shiftRight_mantissa, ofMantissaAndAccuracy_mantissa]
    exact div_distance_lt m e
  have hle := roundedMantissa_le em
  rw [roundWithAccuracy, shiftToTargetExponent_eq]
  change (let (final, exponent) :=
      shiftToTargetExponent .binary64 em.roundedMantissa (e + distance m e) .exact
    if h : final.mantissa = 0 then UnpackedFloat.zero s
    else .finite s final.mantissa exponent (Nat.pos_of_ne_zero h)) = _
  by_cases hsmall : em.roundedMantissa < 2 ^ 53
  · rw [shiftToTargetExponent_small hsmall he]
    simp only [hsmall, if_true]
  · have hcarry : em.roundedMantissa = 2 ^ 53 := by omega
    have hne : ¬ 2 ^ 53 = 0 := by decide
    have hne' : ¬ 2 ^ 52 = 0 := by decide
    rw [hcarry, shiftToTargetExponent_carry he]
    simp only [hne, hne', dite_false, Nat.lt_irrefl, if_false]

/-! ## Overflow -/

/-- A finite result, with an exponent up to the given one. -/
def AtMost (top : ℤ) : UnpackedFloat → Prop
  | .zero _ => True
  | .finite _ _ e _ => e ≤ top
  | .infinity _ => False
  | .notANumber => False

theorem AtMost.mono {top top' : ℤ} {u : UnpackedFloat} (h : AtMost top u) (htop : top ≤ top') :
    AtMost top' u := by
  cases u with
  | zero s => trivial
  | finite s m e hm => exact h.trans htop
  | infinity s => exact h
  | notANumber => exact h

/-- The result is finite also when it is packed. -/
def Fits : UnpackedFloat → Prop := AtMost 971

theorem atMost_round {m : ℕ} {e top : ℤ} (hlow : -1074 < top) (he : e < top)
    (hm : m.log2 + e - 52 < top) (s : Sign) (a : Accuracy) :
    AtMost top (roundWithAccuracy .binary64 s m e a) := by
  have ht : e + distance m e < top := by
    unfold distance
    omega
  rw [roundWithAccuracy_eq]
  split_ifs
  · trivial
  · exact ht.le
  · exact ht

/-- From here on numbers are rounded to infinity: the middle between the largest finite number,
`(2 ^ 53 - 1) * 2 ^ 971`, and the next power of two. -/
def overflow : ℚ := (2 ^ 54 - 1) * 2 ^ (970 : ℤ)

theorem two_zpow_add {t : ℤ} (k n : ℤ) (h : t = k + n) : (2 : ℚ) ^ t = 2 ^ k * 2 ^ n := by
  rw [h, zpow_add₀ (by norm_num)]

theorem value_shifted (x : ℚ) (e : ℤ) (d : ℕ) : x * 2 ^ e = x / 2 ^ d * 2 ^ (e + d : ℤ) := by
  have hd : (2 : ℚ) ^ d ≠ 0 := pow_ne_zero d (by norm_num)
  rw [zpow_add₀ (by norm_num : (2 : ℚ) ≠ 0), zpow_natCast]
  field_simp

theorem mul_zpow_lt_overflow {y : ℚ} {t : ℤ} (hy : y < 2 ^ 53) (ht : t ≤ 970) :
    y * 2 ^ t < overflow := by
  have hle : (2 : ℚ) ^ t ≤ 2 ^ (970 : ℤ) := zpow_le_zpow_right₀ (by norm_num) ht
  calc y * 2 ^ t < 2 ^ 53 * 2 ^ t := mul_lt_mul_of_pos_right hy (zpow_pos (by norm_num) t)
    _ ≤ 2 ^ 53 * 2 ^ (970 : ℤ) := mul_le_mul_of_nonneg_left hle (by norm_num)
    _ < (2 ^ 54 - 1) * 2 ^ (970 : ℤ) :=
      mul_lt_mul_of_pos_right (by norm_num) (zpow_pos (by norm_num) _)

theorem overflow_le_mul_zpow {y : ℚ} {t : ℤ} (hy : 2 ^ 52 ≤ y) (ht : 972 ≤ t) :
    overflow ≤ y * 2 ^ t := by
  have hle : (2 : ℚ) ^ (972 : ℤ) ≤ 2 ^ t := zpow_le_zpow_right₀ (by norm_num) ht
  calc overflow ≤ 2 ^ 52 * 2 ^ (972 : ℤ) := by
        have hunit : (0 : ℚ) < 2 ^ (970 : ℤ) := zpow_pos (by norm_num) _
        rw [overflow, two_zpow_add (t := 972) 2 970 (by norm_num)]
        generalize (2 : ℚ) ^ (970 : ℤ) = unit at hunit ⊢
        linarith
    _ ≤ 2 ^ 52 * 2 ^ t := mul_le_mul_of_nonneg_left hle (by norm_num)
    _ ≤ y * 2 ^ t := mul_le_mul_of_nonneg_right hy (zpow_pos (by norm_num) t).le

/-- In units of the largest numbers, the bound is half a unit below the next power of two. -/
theorem overflow_eq_units : overflow = (((2 ^ 53 : ℕ) : ℚ) - 1 / 2) * 2 ^ (971 : ℤ) := by
  rw [overflow, two_zpow_add (t := 971) 1 970 (by norm_num)]
  generalize (2 : ℚ) ^ (970 : ℤ) = unit
  push_cast
  ring

/-- With at least as many bits as it can keep, a number fits just if it is below the bound. -/
theorem fits_round_iff {m : ℕ} {e : ℤ} {a : Accuracy} {x : ℚ}
    (hx : Represents (ExtendedMantissa.ofMantissaAndAccuracy m a) x)
    (he : e ≤ max (m.log2 + e - 52) (-1074)) (s : Sign) :
    Fits (roundWithAccuracy .binary64 s m e a) ↔ x * 2 ^ e < overflow := by
  have ht : e + distance m e = max (m.log2 + e - 52) (-1074) := by
    unfold distance
    omega
  have hshifted := hx.shiftRight (distance m e)
  have hmantissa := div_distance_lt m e
  rw [roundWithAccuracy_eq, value_shifted x e (distance m e)]
  rw [← ofMantissaAndAccuracy_mantissa m a, ← shiftRight_mantissa,
    ofMantissaAndAccuracy_mantissa] at hmantissa
  generalize hem : ExtendedMantissa.ofMantissaAndAccuracy m a >>> distance m e = em at *
  generalize hy : x / 2 ^ distance m e = y at *
  generalize htop : e + (distance m e : ℤ) = t at *
  obtain hlow | rfl | hhigh : t ≤ 970 ∨ t = 971 ∨ 972 ≤ t := by omega
  · -- far below the bound, whatever the rounding does
    have hcast : (em.mantissa : ℚ) + 1 ≤ 2 ^ 53 := by exact_mod_cast hmantissa
    refine iff_of_true ?_ (mul_zpow_lt_overflow (hshifted.bounds.2.trans_le hcast) hlow)
    split_ifs
    · trivial
    · exact hlow.trans (by norm_num)
    · change t + 1 ≤ 971
      omega
  · -- here rounding up to the next power of two decides
    have hrounded := hshifted.rounded_lt_iff (n := 2 ^ 53) (by decide) hmantissa
    rw [overflow_eq_units, mul_lt_mul_iff_left₀ (zpow_pos (by norm_num) _), ← hrounded]
    split_ifs with hzero hsmall
    · exact iff_of_true trivial (by omega)
    · exact iff_of_true (le_refl (971 : ℤ)) hsmall
    · refine iff_of_false ?_ hsmall
      change ¬ (971 : ℤ) + 1 ≤ 971
      omega
  · -- all bits are kept, so the value is too large
    have hlog : m.log2 = 52 + distance m e := by omega
    have hm : m ≠ 0 := by
      rintro rfl
      rw [Nat.log2_zero] at hlog
      omega
    have hge : 2 ^ 52 ≤ em.mantissa := by
      rw [← hem, shiftRight_mantissa, ofMantissaAndAccuracy_mantissa]
      exact le_div_distance hm hlog
    have hlower : (2 : ℚ) ^ 52 ≤ y := le_trans (by exact_mod_cast hge) hshifted.bounds.1
    have hrounded := le_roundedMantissa em
    refine iff_of_false ?_ (not_lt.mpr (overflow_le_mul_zpow hlower hhigh))
    split_ifs
    · omega
    · change ¬ t ≤ 971
      omega
    · change ¬ t + 1 ≤ 971
      omega

theorem fits_mul_iff {s₁ s₂ : Sign} {m₁ m₂ : ℕ} {e₁ e₂ : ℤ} (h₁ : 0 < m₁) (h₂ : 0 < m₂)
    (he : 52 ≤ (m₁ * m₂).log2 ∨ e₁ + e₂ ≤ -1074) :
    Fits (mul .binary64 (.finite s₁ m₁ e₁ h₁) (.finite s₂ m₂ e₂ h₂)) ↔
      (m₁ * 2 ^ e₁ : ℚ) * (m₂ * 2 ^ e₂) < overflow := by
  have hvalue : ((m₁ * m₂ : ℕ) : ℚ) * 2 ^ (e₁ + e₂) = (m₁ * 2 ^ e₁) * (m₂ * 2 ^ e₂) := by
    rw [zpow_add₀ (by norm_num), Nat.cast_mul]
    ring
  rw [← hvalue]
  exact fits_round_iff (a := .exact) (.exact (m₁ * m₂)) (by omega) (s₁ * s₂)

/-! ## Quotients -/

/-- A remainder becomes the residual bits of the quotient. -/
theorem represents_quotient (n : ℕ) {d : ℕ} (hd : 0 < d) :
    Represents (.ofMantissaAndAccuracy (n / d) (accuracyOfFraction (n % d) d)) (n / d : ℚ) := by
  have hpos : (0 : ℚ) < d := by exact_mod_cast hd
  have hsplit : (n : ℚ) = (n / d : ℕ) * d + (n % d : ℕ) := by
    exact_mod_cast (Nat.div_add_mod' n d).symm
  have hlt : ((n % d : ℕ) : ℚ) < d := by exact_mod_cast Nat.mod_lt n hd
  have hvalue : (n / d : ℚ) = (n / d : ℕ) + (n % d : ℕ) / d := by
    rw [hsplit, add_div, mul_div_cancel_right₀ _ hpos.ne']
  rw [hvalue]
  generalize n / d = q
  generalize n % d = r at hlt
  have hone : (r / d : ℚ) < 1 := (div_lt_one hpos).mpr hlt
  unfold accuracyOfFraction
  by_cases hzero : r = 0
  · rw [if_pos hzero, hzero, Nat.cast_zero, zero_div, add_zero]
    exact .exact q
  have hfraction : (0 : ℚ) < r / d := div_pos (by exact_mod_cast Nat.pos_of_ne_zero hzero) hpos
  rw [if_neg hzero]
  obtain hbelow | heq | habove := Nat.lt_trichotomy (2 * r) d
  · have hhalf : (r / d : ℚ) < 1 / 2 := by
      have hcast : (2 : ℚ) * r < d := by exact_mod_cast hbelow
      rw [div_lt_iff₀ hpos]
      linarith
    rw [Nat.compare_eq_lt.mpr hbelow]
    exact .low (by linarith) (by linarith)
  · have hhalf : (r / d : ℚ) = 1 / 2 := by
      have hcast : (2 : ℚ) * r = d := by exact_mod_cast heq
      rw [div_eq_iff hpos.ne']
      linarith
    rw [Nat.compare_eq_eq.mpr heq, hhalf]
    exact .half q
  · have hhalf : 1 / 2 < (r / d : ℚ) := by
      have hcast : (d : ℚ) < 2 * r := by exact_mod_cast habove
      rw [lt_div_iff₀ hpos]
      linarith
    rw [Nat.compare_eq_gt.mpr habove]
    exact .high (by linarith) (by linarith)

def quotientExponent (m₁ : ℕ) (e₁ : ℤ) (m₂ : ℕ) (e₂ : ℤ) : ℤ :=
  min (e₁ - e₂) (max (m₁.log2 + e₁ - (m₂.log2 + e₂) - 53) (-1074))

theorem divCore_eq (m₁ : ℕ) (e₁ : ℤ) (m₂ : ℕ) (e₂ : ℤ) :
    divCore .binary64 m₁ e₁ m₂ e₂ =
      let t := quotientExponent m₁ e₁ m₂ e₂
      let n := m₁ <<< (e₁ - e₂ - t).toNat
      (n / m₂, t, accuracyOfFraction (n % m₂) m₂) := by
  have ht : min (e₁ - e₂) (Format.binary64.targetExponent
      (totalExponent m₁ e₁ - totalExponent m₂ e₂)) = quotientExponent m₁ e₁ m₂ e₂ := by
    simp only [Format.targetExponent, totalExponent, Format.mantissaBits, Format.minExponent,
      quotientExponent]
    norm_num
    omega
  rw [divCore, ht]

/-- The quotient has enough bits. -/
theorem quotientExponent_le (m₁ : ℕ) (e₁ : ℤ) {m₂ : ℕ} (e₂ : ℤ) (h₁ : 0 < m₁) (h₂ : 0 < m₂) :
    let t := quotientExponent m₁ e₁ m₂ e₂
    52 ≤ ((m₁ <<< (e₁ - e₂ - t).toNat) / m₂).log2 ∨ t ≤ -1074 := by
  intro t
  refine or_iff_not_imp_right.mpr fun ht => ?_
  have hshift : m₂.log2 + 53 ≤ m₁.log2 + (e₁ - e₂ - t).toNat := by
    change ¬ quotientExponent m₁ e₁ m₂ e₂ ≤ -1074 at ht
    change m₂.log2 + 53 ≤ m₁.log2 + (e₁ - e₂ - quotientExponent m₁ e₁ m₂ e₂).toNat
    unfold quotientExponent at *
    omega
  generalize (e₁ - e₂ - t).toNat = shift at hshift
  have hle : 2 ^ 52 * m₂ ≤ m₁ <<< shift := by
    calc 2 ^ 52 * m₂ ≤ 2 ^ 52 * 2 ^ (m₂.log2 + 1) := Nat.mul_le_mul_left _ Nat.lt_log2_self.le
      _ = 2 ^ (m₂.log2 + 53) := by rw [← pow_add]; congr 1; omega
      _ ≤ 2 ^ (m₁.log2 + shift) := Nat.pow_le_pow_right (by decide) hshift
      _ = 2 ^ m₁.log2 * 2 ^ shift := pow_add 2 _ _
      _ ≤ m₁ * 2 ^ shift := Nat.mul_le_mul_right _ (Nat.log2_self_le (Nat.ne_of_gt h₁))
      _ = m₁ <<< shift := (Nat.shiftLeft_eq m₁ shift).symm
  have hquotient : 2 ^ 52 ≤ (m₁ <<< shift) / m₂ := (Nat.le_div_iff_mul_le h₂).mpr hle
  exact (Nat.le_log2 (by positivity)).mpr hquotient

theorem fits_div_iff {s₁ s₂ : Sign} {m₁ m₂ : ℕ} {e₁ e₂ : ℤ} (h₁ : 0 < m₁) (h₂ : 0 < m₂) :
    Fits (div .binary64 (.finite s₁ m₁ e₁ h₁) (.finite s₂ m₂ e₂ h₂)) ↔
      (m₁ * 2 ^ e₁ : ℚ) / (m₂ * 2 ^ e₂) < overflow := by
  have hbits := quotientExponent_le m₁ e₁ e₂ h₁ h₂
  have hle : quotientExponent m₁ e₁ m₂ e₂ ≤ e₁ - e₂ := min_le_left _ _
  change Fits (let (m, e, a) := divCore .binary64 m₁ e₁ m₂ e₂
    roundWithAccuracy .binary64 (s₁ / s₂) m e a) ↔ _
  rw [divCore_eq]
  dsimp only at hbits ⊢
  generalize quotientExponent m₁ e₁ m₂ e₂ = t at hbits hle
  rw [fits_round_iff (represents_quotient _ h₂) (by omega)]
  have hvalue : (((m₁ <<< (e₁ - e₂ - t).toNat : ℕ) : ℚ) / m₂) * 2 ^ t =
      (m₁ * 2 ^ e₁) / (m₂ * 2 ^ e₂) := by
    have htwo : (2 : ℚ) ≠ 0 := by norm_num
    have hshift : ((e₁ - e₂ - t).toNat : ℤ) = e₁ - e₂ - t := Int.toNat_of_nonneg (by omega)
    rw [Nat.shiftLeft_eq, Nat.cast_mul, Nat.cast_pow, Nat.cast_ofNat, ← zpow_natCast, hshift,
      zpow_sub₀ htwo, zpow_sub₀ htwo]
    field_simp
  rw [hvalue]

end Crossover.Rounding
