import Crossover.Proofs.Number.Rounding

/-!
# Finite numbers

A binary64 number is finite if its exponent field is not the last one. Packing a result gives a
finite number just if the result fits, and the parts of a finite number are bounded. What is not a
number makes every sum, difference, product and quotient it starts no number either.
-/

namespace Crossover.Rounding

open Float.Model Float.Model.UnpackedFloat

theorem isFinite_unpack (b : BitVec Format.binary64.numBits) :
    (UnpackedFloat.unpack .binary64 b).isFinite = true ↔ unpackExponent b ≠ (-1#_) := by
  unfold UnpackedFloat.unpack
  dsimp only
  by_cases hlast : unpackExponent b = (-1#_)
  · rw [if_pos hlast]
    refine iff_of_false ?_ (not_not.mpr hlast)
    split_ifs
    · exact Bool.false_ne_true
    · exact Bool.false_ne_true
  · rw [if_neg hlast]
    refine iff_of_true ?_ hlast
    split_ifs
    · rfl
    · rfl
    · rfl

/-- The exponent field of a packed number. -/
theorem unpackExponent_pack (s : Sign) (m : ℕ) (e : ℤ) (h : 0 < m) :
    unpackExponent (UnpackedFloat.pack .binary64 (.finite s m e h)) =
      if 972 ≤ e then -1#11
      else if m.log2 = 52 then BitVec.ofNat 11 (e + 1075).toNat else 0#11 := by
  have hbias : e + (Format.exponentBias .binary64 : ℤ) + (52 : ℕ) = e + 1075 := by
    rw [Int.add_assoc]
    rfl
  have hover : 2 ^ 11 ≤ (e + 1075).toNat + 1 ↔ 972 ≤ e := by omega
  have hbits : m.log2 + 1 = Format.mantissaBits .binary64 ↔ m.log2 = 52 := by
    change m.log2 + 1 = 53 ↔ m.log2 = 52
    omega
  simp only [UnpackedFloat.pack]
  rw [hbias]
  simp only [hover, hbits]
  split_ifs
  · exact unpackExponent_packComponents
  · exact unpackExponent_packComponents
  · exact unpackExponent_packComponents

theorem isFinite_pack (u : UnpackedFloat) : (Float.Model.pack u).isFinite = true ↔ Fits u := by
  change (UnpackedFloat.unpack .binary64 (UnpackedFloat.pack .binary64 u)).isFinite = true ↔ Fits u
  rw [isFinite_unpack]
  cases u with
  | notANumber =>
      refine iff_of_false ?_ id
      rw [not_not]
      exact unpackExponent_packComponents
  | infinity s =>
      refine iff_of_false ?_ id
      rw [not_not]
      exact unpackExponent_packComponents
  | zero s =>
      refine iff_of_true ?_ trivial
      change unpackExponent (packComponents .binary64 s 0 0) ≠ (-1#_)
      rw [unpackExponent_packComponents]
      decide
  | finite s m e h =>
      rw [unpackExponent_pack]
      change _ ↔ e ≤ 971
      split_ifs with hover hnormal
      · exact iff_of_false (fun h => h rfl) (by omega)
      · refine iff_of_true ?_ (by omega)
        intro hlast
        have hfield := congrArg BitVec.toNat hlast
        change (e + 1075).toNat % 2 ^ 11 = 2047 at hfield
        rw [Nat.mod_eq_of_lt (by omega)] at hfield
        omega
      · exact iff_of_true (by decide) (by omega)

/-- A finite number as it is unpacked, of which the exponent is bounded. -/
inductive Canonical (top : ℤ) : UnpackedFloat → Prop
  | zero (s : Sign) : Canonical top (.zero s)
  | finite {s : Sign} {m : ℕ} {e : ℤ} {h : 0 < m} : m < 2 ^ 53 → 2 ^ 52 ≤ m ∨ e = -1074 → e ≤ top →
      Canonical top (.finite s m e h)

theorem exists_unpack_normal {b : BitVec Format.binary64.numBits} (hlast : unpackExponent b ≠ -1#11)
    (hzero : unpackExponent b ≠ 0#11) : ∃ s m h,
      UnpackedFloat.unpack .binary64 b = .finite s m ((unpackExponent b).toNat - 1075) h ∧
        2 ^ 52 ≤ m ∧ m < 2 ^ 53 := by
  have hbias : (Format.exponentBias .binary64 : ℤ) + (52 : ℕ) = 1075 := rfl
  have hnat : (1#1 ++ unpackMantissa b).toNat = 2 ^ 52 + (unpackMantissa b).toNat := by
    rw [BitVec.toNat_append, ← Nat.shiftLeft_add_eq_or_of_lt (unpackMantissa b).isLt]
    rfl
  have hlt : (unpackMantissa b).toNat < 2 ^ 52 := (unpackMantissa b).isLt
  have hpos : 0 < (1#1 ++ unpackMantissa b).toNat := by omega
  unfold UnpackedFloat.unpack
  dsimp only
  rw [if_neg hlast, if_neg hzero, hbias]
  exact ⟨_, _, hpos, rfl, by omega, by omega⟩

theorem canonical_unpack {b : BitVec Format.binary64.numBits} {top : ℤ} (htop : -1074 ≤ top)
    (hlast : unpackExponent b ≠ -1#11) (hfield : (unpackExponent b).toNat ≤ top + 1075) :
    Canonical top (UnpackedFloat.unpack .binary64 b) := by
  by_cases hzero : unpackExponent b = 0#11
  · have hbias : ((0#11).toNat : ℤ) - (Format.exponentBias .binary64 + (52 : ℕ)) + 1 = -1074 := rfl
    unfold UnpackedFloat.unpack
    dsimp only
    rw [if_neg hlast, if_pos hzero, hzero, hbias]
    split_ifs
    · exact .zero _
    · exact .finite ((unpackMantissa b).isLt.trans (by decide)) (.inr rfl) htop
  · obtain ⟨s, m, h, hunpack, hlow, hhigh⟩ := exists_unpack_normal hlast hzero
    rw [hunpack]
    exact .finite hhigh (.inl hlow) (by omega)

theorem toNat_le_of_ne_last {field : BitVec 11} (h : field ≠ -1#11) : field.toNat ≤ 2046 := by
  have hlt : field.toNat < 2048 := field.isLt
  have hne : field.toNat ≠ 2047 := fun heq => h (BitVec.eq_of_toNat_eq heq)
  omega

theorem canonical_of_isFinite {x : Float} (h : x.isFinite = true) :
    Canonical 971 x.toModel.unpack := by
  have hlast := (isFinite_unpack x.toModel.toBits.toBitVec).mp h
  refine canonical_unpack (by norm_num) hlast ?_
  have hle := toNat_le_of_ne_last hlast
  omega

theorem canonical_pack {u : UnpackedFloat} {top : ℤ} (hmin : -1074 ≤ top) (hmax : top ≤ 971)
    (hu : AtMost top u) : Canonical top (Float.Model.pack u).unpack := by
  have hlast := (isFinite_unpack _).mp ((isFinite_pack u).mpr (hu.mono hmax))
  refine canonical_unpack hmin hlast ?_
  change (unpackExponent (UnpackedFloat.pack .binary64 u)).toNat ≤ top + 1075
  cases u with
  | zero s =>
      change (unpackExponent (packComponents .binary64 s 0 0)).toNat ≤ top + 1075
      rw [unpackExponent_packComponents]
      change (0 : ℤ) ≤ top + 1075
      omega
  | infinity s => exact hu.elim
  | notANumber => exact hu.elim
  | finite s m e h =>
      change e ≤ top at hu
      rw [unpackExponent_pack]
      split_ifs with hover
      · omega
      · change ((e + 1075).toNat % 2 ^ 11 : ℕ) ≤ top + 1075
        have hmod := Nat.mod_le (e + 1075).toNat (2 ^ 11)
        omega
      · change (0 : ℤ) ≤ top + 1075
        omega

/-- At least one, with a mantissa of 53 bits and an exponent up to the given one. -/
def Large (top : ℤ) : UnpackedFloat → Prop
  | .finite _ m e _ => 2 ^ 52 ≤ m ∧ m < 2 ^ 53 ∧ -52 ≤ e ∧ e ≤ top
  | _ => False

instance decidableLarge (top : ℤ) (u : UnpackedFloat) : Decidable (Large top u) :=
  match u with
  | .finite _ m e _ => inferInstanceAs (Decidable (2 ^ 52 ≤ m ∧ m < 2 ^ 53 ∧ -52 ≤ e ∧ e ≤ top))
  | .zero _ => inferInstanceAs (Decidable False)
  | .infinity _ => inferInstanceAs (Decidable False)
  | .notANumber => inferInstanceAs (Decidable False)

theorem large_unpack {b : BitVec Format.binary64.numBits} (hlast : unpackExponent b ≠ -1#11)
    (hfield : 1023 ≤ (unpackExponent b).toNat) : Large 971 (UnpackedFloat.unpack .binary64 b) := by
  have hzero : unpackExponent b ≠ 0#11 := by
    intro hzero
    rw [hzero] at hfield
    exact absurd hfield (by decide)
  have hle := toNat_le_of_ne_last hlast
  obtain ⟨s, m, h, hunpack, hlow, hhigh⟩ := exists_unpack_normal hlast hzero
  rw [hunpack]
  exact ⟨hlow, hhigh, by omega, by omega⟩

/-- A rounded result of at least one is still at least one when it is packed. -/
theorem large_round {m : ℕ} {e : ℤ} {a : Accuracy} {s : Sign} (hbits : 52 ≤ m.log2)
    (hone : 0 ≤ m.log2 + e) (hfits : Fits (roundWithAccuracy .binary64 s m e a)) :
    Large 971 (Float.Model.pack (roundWithAccuracy .binary64 s m e a)).unpack := by
  have hne : m ≠ 0 := by
    rintro rfl
    rw [Nat.log2_zero] at hbits
    omega
  have hlog : m.log2 = 52 + distance m e := by
    unfold distance
    omega
  have hge := le_div_distance hne hlog
  rw [← ofMantissaAndAccuracy_mantissa m a, ← shiftRight_mantissa,
    ofMantissaAndAccuracy_mantissa] at hge
  have hrounded := le_roundedMantissa
    (ExtendedMantissa.ofMantissaAndAccuracy m a >>> distance m e)
  -- the packed exponent field shows the value, whatever the mantissa
  suffices ∃ r t h, roundWithAccuracy .binary64 s m e a = .finite s r t h ∧ r.log2 = 52 ∧
      -52 ≤ t by
    obtain ⟨r, t, h, hround, hr, ht⟩ := this
    rw [hround] at hfits ⊢
    change t ≤ 971 at hfits
    have hlast := (isFinite_unpack _).mp ((isFinite_pack (.finite s r t h)).mpr hfits)
    refine large_unpack hlast ?_
    change 1023 ≤ (unpackExponent (UnpackedFloat.pack .binary64 (.finite s r t h))).toNat
    rw [unpackExponent_pack, if_neg (by omega), if_pos hr]
    change 1023 ≤ (t + 1075).toNat % 2 ^ 11
    omega
  rw [roundWithAccuracy_eq]
  split_ifs with hzero hsmall
  · omega
  · refine ⟨_, _, Nat.pos_of_ne_zero hzero, rfl, ?_, by omega⟩
    exact (Nat.log2_eq_iff hzero).mpr ⟨hge.trans hrounded, hsmall⟩
  · exact ⟨_, _, by decide, rfl, Nat.log2_two_pow, by omega⟩

/-! ## Operations on finite numbers -/

theorem Canonical.mul_bits {top₁ top₂ : ℤ} {s₁ s₂ : Sign} {m₁ m₂ : ℕ} {e₁ e₂ : ℤ} {h₁ : 0 < m₁}
    {h₂ : 0 < m₂} (ha : Canonical top₁ (.finite s₁ m₁ e₁ h₁))
    (hb : Canonical top₂ (.finite s₂ m₂ e₂ h₂)) :
    52 ≤ (m₁ * m₂).log2 ∨ e₁ + e₂ ≤ -1074 := by
  have hne : m₁ * m₂ ≠ 0 := Nat.mul_ne_zero (Nat.ne_of_gt h₁) (Nat.ne_of_gt h₂)
  cases ha with
  | finite _ ha _ =>
      cases hb with
      | finite _ hb _ =>
          rcases ha with ha | rfl
          · exact .inl ((Nat.le_log2 hne).mpr (ha.trans (Nat.le_mul_of_pos_right m₁ h₂)))
          · rcases hb with hb | rfl
            · exact .inl ((Nat.le_log2 hne).mpr (hb.trans (Nat.le_mul_of_pos_left m₂ h₁)))
            · exact .inr (by norm_num)

theorem Canonical.value_lt {top : ℤ} {s : Sign} {m : ℕ} {e : ℤ} {h : 0 < m}
    (ha : Canonical top (.finite s m e h)) : (m : ℚ) * 2 ^ e < 2 ^ 53 * 2 ^ top := by
  cases ha with
  | finite hm _ he =>
      have hcast : (m : ℚ) < 2 ^ 53 := by exact_mod_cast hm
      calc (m : ℚ) * 2 ^ e < 2 ^ 53 * 2 ^ e := mul_lt_mul_of_pos_right hcast (by positivity)
        _ ≤ 2 ^ 53 * 2 ^ top :=
          mul_le_mul_of_nonneg_left (zpow_le_zpow_right₀ (by norm_num) he) (by norm_num)

theorem Canonical.value_lt_overflow {s : Sign} {m : ℕ} {e : ℤ} {h : 0 < m}
    (ha : Canonical 971 (.finite s m e h)) : (m : ℚ) * 2 ^ e < overflow := by
  cases ha with
  | finite hm _ he =>
      have hcast : (m : ℚ) + 1 ≤ 2 ^ 53 := by exact_mod_cast hm
      have hpow : (2 : ℚ) ^ e ≤ 2 ^ (971 : ℤ) := zpow_le_zpow_right₀ (by norm_num) he
      calc (m : ℚ) * 2 ^ e ≤ (2 ^ 53 - 1) * 2 ^ (971 : ℤ) :=
            mul_le_mul (by linarith) hpow (by positivity) (by norm_num)
        _ < overflow := by
          rw [overflow_eq_units]
          exact mul_lt_mul_of_pos_right (by norm_num) (zpow_pos (by norm_num) _)

/-- Small factors have a finite product. -/
theorem Canonical.fits_mul {top₁ top₂ : ℤ} {a b : UnpackedFloat} (ha : Canonical top₁ a)
    (hb : Canonical top₂ b) (htop : top₁ + top₂ ≤ 864) : Fits (mul .binary64 a b) := by
  cases a with
  | infinity s => cases ha
  | notANumber => cases ha
  | zero s =>
      cases hb with
      | zero => trivial
      | finite => trivial
  | finite s₁ m₁ e₁ h₁ =>
      cases b with
      | infinity s => cases hb
      | notANumber => cases hb
      | zero s => trivial
      | finite s₂ m₂ e₂ h₂ =>
          rw [fits_mul_iff h₁ h₂ (ha.mul_bits hb)]
          have htwo : (2 : ℚ) ^ top₁ * 2 ^ top₂ ≤ 2 ^ (864 : ℤ) := by
            rw [← zpow_add₀ (by norm_num)]
            exact zpow_le_zpow_right₀ (by norm_num) htop
          calc (m₁ * 2 ^ e₁ : ℚ) * (m₂ * 2 ^ e₂)
              < (2 ^ 53 * 2 ^ top₁) * (2 ^ 53 * 2 ^ top₂) :=
                mul_lt_mul'' ha.value_lt hb.value_lt (by positivity) (by positivity)
            _ = 2 ^ 106 * (2 ^ top₁ * 2 ^ top₂) := by ring
            _ ≤ 2 ^ 106 * 2 ^ (864 : ℤ) := mul_le_mul_of_nonneg_left htwo (by norm_num)
            _ ≤ overflow := by
              have hunit : (0 : ℚ) < 2 ^ (864 : ℤ) := by positivity
              rw [overflow, two_zpow_add (t := 970) 106 864 (by norm_num)]
              generalize (2 : ℚ) ^ (864 : ℤ) = unit at hunit ⊢
              norm_num
              linarith

theorem Large.canonical {top : ℤ} {u : UnpackedFloat} (h : Large top u) : Canonical top u := by
  cases u with
  | finite s m e hm => exact .finite h.2.1 (.inl h.1) h.2.2.2
  | zero s => cases h
  | infinity s => cases h
  | notANumber => cases h

/-- A finite number divided by one that is at least one stays finite. -/
theorem Canonical.fits_div {top : ℤ} {a b : UnpackedFloat} (ha : Canonical 971 a)
    (hb : Large top b) : Fits (div .binary64 a b) := by
  cases b with
  | zero s => cases hb
  | infinity s => cases hb
  | notANumber => cases hb
  | finite s₂ m₂ e₂ h₂ =>
      cases a with
      | infinity s => cases ha
      | notANumber => cases ha
      | zero s => trivial
      | finite s₁ m₁ e₁ h₁ =>
          obtain ⟨hm₂, -, he₂, -⟩ := hb
          rw [fits_div_iff h₁ h₂]
          have hone : (1 : ℚ) ≤ m₂ * 2 ^ e₂ := by
            have hcast : (2 : ℚ) ^ 52 ≤ m₂ := by exact_mod_cast hm₂
            have hpow : (2 : ℚ) ^ (-52 : ℤ) ≤ 2 ^ e₂ := zpow_le_zpow_right₀ (by norm_num) he₂
            calc (1 : ℚ) = 2 ^ 52 * 2 ^ (-52 : ℤ) := by norm_num
              _ ≤ m₂ * 2 ^ e₂ := mul_le_mul hcast hpow (by positivity) (by positivity)
          exact (div_le_self (by positivity) hone).trans_lt ha.value_lt_overflow

theorem isInf_pack_infinity (s : Sign) :
    (UnpackedFloat.unpack .binary64 (packedInfinity .binary64 s)).isInf = true := by
  simp [UnpackedFloat.unpack, packedInfinity, UnpackedFloat.isInf]

theorem fits_or_isInf {u : UnpackedFloat} (h : u.isNaN = false) :
    Fits u ∨ (Float.Model.pack u).isInf = true := by
  cases u with
  | notANumber => cases h
  | zero s => exact .inl trivial
  | infinity s => exact .inr (isInf_pack_infinity s)
  | finite s m e hm =>
      by_cases he : e ≤ 971
      · exact .inl he
      · have hover : 2 ^ 11 ≤ (e + (Format.exponentBias .binary64 : ℤ) + (52 : ℕ)).toNat + 1 := by
          have hbias : (Format.exponentBias .binary64 : ℤ) = 1023 := rfl
          omega
        have hpack : UnpackedFloat.pack .binary64 (.finite s m e hm) =
            packedInfinity .binary64 s := by
          simp only [UnpackedFloat.pack]
          rw [if_pos hover]
        right
        change (UnpackedFloat.unpack .binary64 (UnpackedFloat.pack .binary64 _)).isInf = true
        rw [hpack]
        exact isInf_pack_infinity s

theorem Canonical.mul_isNaN {top : ℤ} {a b : UnpackedFloat} (ha : Canonical top a)
    (hb : Canonical top b) : (mul .binary64 a b).isNaN = false := by
  cases ha with
  | zero =>
      cases hb with
      | zero => rfl
      | finite => rfl
  | @finite s₁ m₁ e₁ h₁ =>
      cases hb with
      | zero => rfl
      | @finite s₂ m₂ e₂ h₂ =>
          change (roundWithAccuracy .binary64 (s₁ * s₂) (m₁ * m₂) (e₁ + e₂) .exact).isNaN = false
          rw [roundWithAccuracy_eq]
          split_ifs
          · rfl
          · rfl
          · rfl

end Crossover.Rounding

/-! ## Arithmetic -/

namespace Crossover

open Rounding Float.Model Float.Model.UnpackedFloat

theorem isFinite_mul {x y : Float} {top₁ top₂ : ℤ} (hx : Canonical top₁ x.toModel.unpack)
    (hy : Canonical top₂ y.toModel.unpack) (htop : top₁ + top₂ ≤ 864) :
    (x * y).isFinite = true :=
  (isFinite_pack _).mpr (hx.fits_mul hy htop)

theorem isFinite_mul_of_not_isInf {x y : Float} (hx : x.isFinite = true) (hy : y.isFinite = true)
    (h : (x * y).isInf = false) : (x * y).isFinite = true := by
  have hx := canonical_of_isFinite hx
  have hy := canonical_of_isFinite hy
  rcases fits_or_isInf (hx.mul_isNaN hy) with hfits | hinf
  · exact (isFinite_pack _).mpr hfits
  · exact absurd (h.symm.trans hinf) Bool.false_ne_true

theorem isFinite_div {x y : Float} {top : ℤ} (hx : x.isFinite = true)
    (hy : Large top y.toModel.unpack) : (x / y).isFinite = true :=
  (isFinite_pack _).mpr ((canonical_of_isFinite hx).fits_div hy)

theorem isFinite_neg (x : Float) : (-x).isFinite = x.isFinite := by
  have hneg : (-x).isFinite = true ↔ Fits x.toModel.unpack.neg := isFinite_pack _
  rw [Bool.eq_iff_iff, hneg]
  constructor
  · intro h
    change x.toModel.unpack.isFinite = true
    generalize x.toModel.unpack = u at h
    cases u with
    | zero => rfl
    | finite => rfl
    | infinity => exact h.elim
    | notANumber => exact h.elim
  · intro h
    have hcanonical := canonical_of_isFinite h
    generalize x.toModel.unpack = u at hcanonical
    cases hcanonical with
    | zero => trivial
    | finite _ _ he => exact he

theorem isFinite_signed (negative : Bool) (x : Float) :
    (if negative then -x else x).isFinite = x.isFinite := by
  cases negative with
  | false => rfl
  | true => exact isFinite_neg x

theorem unpack_zero : (0.0 : Float).toModel.unpack = .zero .positive := rfl

theorem isFinite_zero : (0.0 : Float).isFinite = true := by
  change (0.0 : Float).toModel.unpack.isFinite = true
  rw [unpack_zero]
  rfl

/-- What is divided by zero is infinite or not a number. -/
theorem not_isFinite_div_zero (x : Float) : ¬ (x / 0.0).isFinite = true := by
  have hdiv : ¬ Fits (div .binary64 x.toModel.unpack (.zero .positive)) := by
    cases x.toModel.unpack <;> exact id
  rw [← unpack_zero] at hdiv
  exact fun h => hdiv ((isFinite_pack _).mp h)

/-! ## What is not a number -/

theorem unpack_of_isNaN {x : Float} (h : x.isNaN = true) : x.toModel.unpack = .notANumber :=
  isNaN_iff.mp h

theorem not_isFinite_of_isNaN {x : Float} (h : x.isNaN = true) : ¬ x.isFinite = true := by
  change ¬ x.toModel.unpack.isFinite = true
  rw [unpack_of_isNaN h]
  exact Bool.false_ne_true

theorem isNaN_pack {u : UnpackedFloat} (h : u = .notANumber) :
    (Float.Model.pack u).isNaN = true := by
  rw [h]
  change (UnpackedFloat.unpack .binary64 (packedNaN .binary64)).isNaN = true
  rw [unpack_packedNaN]
  rfl

theorem isNaN_add {x y : Float} (h : x.isNaN = true ∨ y.isNaN = true) : (x + y).isNaN = true := by
  have hadd : add .binary64 x.toModel.unpack y.toModel.unpack = .notANumber := by
    rcases h with h | h
    · rw [unpack_of_isNaN h]
      rfl
    · rw [unpack_of_isNaN h]
      cases x.toModel.unpack <;> rfl
  exact isNaN_pack hadd

theorem isNaN_sub_left {x : Float} (h : x.isNaN = true) (y : Float) : (x - y).isNaN = true := by
  have hsub : sub .binary64 x.toModel.unpack y.toModel.unpack = .notANumber := by
    rw [unpack_of_isNaN h]
    rfl
  exact isNaN_pack hsub

theorem isNaN_mul_left {x : Float} (h : x.isNaN = true) (y : Float) : (x * y).isNaN = true := by
  have hmul : mul .binary64 x.toModel.unpack y.toModel.unpack = .notANumber := by
    rw [unpack_of_isNaN h]
    rfl
  exact isNaN_pack hmul

theorem isNaN_div_left {x : Float} (h : x.isNaN = true) (y : Float) : (x / y).isNaN = true := by
  have hdiv : div .binary64 x.toModel.unpack y.toModel.unpack = .notANumber := by
    rw [unpack_of_isNaN h]
    rfl
  exact isNaN_pack hdiv

theorem not_lt_of_isNaN {y : Float} (h : y.isNaN = true) (x : Float) : ¬ x < y := by
  have hlt : x.toModel.unpack.lt y.toModel.unpack = false := by
    rw [unpack_of_isNaN h]
    cases x.toModel.unpack <;> rfl
  change ¬ decide (x.toModel.unpack.lt y.toModel.unpack = true) = true
  rw [hlt]
  exact Bool.false_ne_true

end Crossover
