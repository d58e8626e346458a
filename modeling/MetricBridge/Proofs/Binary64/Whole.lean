/-
# Doubles and whole numbers

A finite double denotes a rational number. Its whole part is that number without its fraction,
which is the floor of it only if it is not negative. In the other direction, a whole number of
64 bits has a nearest double that is finite, as has every fraction below `2 ^ 1023`.
-/

import Mathlib
import MetricBridge.Proofs.Binary64.Rounding

namespace MetricBridge.Binary64

/-- The rational number that a finite double denotes. -/
def toRat? : Binary64 → Option ℚ
  | finite negative magnitude => some (if negative then -magnitude.toRat else magnitude.toRat)
  | _ => none

/-- A number without its fraction. -/
def towardZero (number : ℚ) : ℤ :=
  if 0 ≤ number then ⌊number⌋ else ⌈number⌉

theorem Magnitude.toRat_nonneg (magnitude : Magnitude) : 0 ≤ magnitude.toRat := by
  rw [Magnitude.toRat]
  positivity

theorem towardZero_neg {number : ℚ} (hnonneg : 0 ≤ number) : towardZero (-number) = -⌊number⌋ := by
  rcases hnonneg.eq_or_lt with rfl | hpos
  · simp [towardZero]
  · rw [towardZero, if_neg (by linarith), Int.ceil_neg]

theorem wholePart?_eq_map (value : Binary64) : value.wholePart? = value.toRat?.map towardZero := by
  cases value with
  | nan => rfl
  | infinite negative => rfl
  | finite negative magnitude =>
    have hfloor : (magnitude.floor : ℤ) = ⌊magnitude.toRat⌋ := by
      rw [floor_eq_floor_toRat, Int.natCast_floor_eq_floor magnitude.toRat_nonneg]
    cases negative with
    | true => simp [wholePart?, toRat?, hfloor, towardZero_neg magnitude.toRat_nonneg]
    | false => simp [wholePart?, toRat?, hfloor, towardZero, magnitude.toRat_nonneg]

/-! ### The nearest double of a whole number -/

theorem nearestWhole_cases (numerator denominator : Nat) :
    nearestWhole numerator denominator = numerator / denominator ∨
      nearestWhole numerator denominator = numerator / denominator + 1 := by
  unfold nearestWhole
  simp only
  split_ifs <;> simp

/-- A significand that is rounded up to 54 bits still fits, with the next exponent. -/
theorem exists_ofScaled?_eq_some {significand : Nat} {exponent : ℤ} (hle : significand ≤ 2 ^ 53)
    (hleast : -1074 ≤ exponent) (hgreatest : exponent ≤ 970)
    (hnormal : 2 ^ 52 ≤ significand ∨ exponent = -1074) :
    ∃ magnitude, Magnitude.ofScaled? significand exponent = some magnitude := by
  unfold Magnitude.ofScaled?
  rcases hle.eq_or_lt with htop | hlt
  · have hnot : ¬ IsCanonical significand exponent := fun hcanonical => by
      simp [IsCanonical, htop] at hcanonical
    have hnext : significand = Nat.pow 2 53 ∧ IsCanonical (Nat.pow 2 52) (exponent + 1) :=
      ⟨htop, by decide, by omega, by omega, Or.inl le_rfl⟩
    rw [dif_neg hnot, dif_pos hnext]
    exact ⟨_, rfl⟩
  · rw [dif_pos ⟨hlt, hleast, by omega, hnormal⟩]
    exact ⟨_, rfl⟩

/-- A fraction divided by a power of two, in whole numbers. -/
theorem scaled_div_eq (numerator denominator : Nat) (exponent : ℤ) :
    ((numerator * 2 ^ (-exponent).toNat : Nat) : ℚ) / (denominator * 2 ^ exponent.toNat : Nat) =
      (numerator : ℚ) / denominator / 2 ^ exponent := by
  rw [zpow_eq_toNat_div 2 exponent]
  push_cast
  field_simp

/-- With the exponent that rounding chooses, a fraction has 53 bits before the point, unless the
exponent is the least one. -/
theorem scaled_bounds {value : ℚ} (hpos : 0 < value) {exponent : ℤ}
    (hexponent : exponent = max (-1074) (Int.log 2 value - 52)) :
    value / 2 ^ exponent < 2 ^ 53 ∧ (2 ^ 52 ≤ value / 2 ^ exponent ∨ exponent = -1074) := by
  have hscale : (0 : ℚ) < 2 ^ exponent := by positivity
  constructor
  · rw [div_lt_iff₀ hscale, ← zpow_natCast, ← zpow_add₀ (by norm_num)]
    refine lt_of_lt_of_le (Int.lt_zpow_succ_log_self (b := 2) (by decide) value) ?_
    exact zpow_le_zpow_right₀ (by norm_num) (by push_cast; omega)
  · rcases le_or_gt (Int.log 2 value - 52) (-1074) with hleast | hmore
    · exact Or.inr (hexponent.trans (max_eq_left hleast))
    · left
      rw [le_div_iff₀ hscale, ← zpow_natCast, ← zpow_add₀ (by norm_num)]
      refine le_trans (zpow_le_zpow_right₀ (by norm_num) ?_)
        (Int.zpow_log_le_self (by decide) hpos)
      push_cast
      omega

theorem exists_ofFraction?_eq_some {numerator denominator : Nat} (hnum : 0 < numerator)
    (hden : 0 < denominator) (hbound : (numerator : ℚ) / denominator < 2 ^ (1023 : ℤ)) :
    ∃ magnitude, Magnitude.ofFraction? numerator denominator = some magnitude := by
  have hpos : (0 : ℚ) < (numerator : ℚ) / denominator := by positivity
  have hsmall : Int.log 2 ((numerator : ℚ) / denominator) < 1023 := by
    rw [← zpow_lt_zpow_iff_right₀ (by norm_num : (1 : ℚ) < 2)]
    exact lt_of_le_of_lt (Int.zpow_log_le_self (by decide) hpos) hbound
  set exponent : ℤ := max (-1074) (Int.log 2 ((numerator : ℚ) / denominator) - 52) with hexponent
  obtain ⟨hhigh, hlow⟩ := scaled_bounds hpos hexponent
  rw [← scaled_div_eq] at hhigh hlow
  unfold Magnitude.ofFraction?
  rw [if_neg (by omega)]
  simp only [Nat.pow_eq, binaryOrder_eq_log hnum hden, ← hexponent]
  set upper := numerator * 2 ^ (-exponent).toNat
  set lower := denominator * 2 ^ exponent.toNat
  have hquotient : upper / lower < 2 ^ 53 := by
    rw [← Nat.floor_div_eq_div (K := ℚ), Nat.floor_lt (by positivity)]
    exact_mod_cast hhigh
  have hnormal : 2 ^ 52 ≤ upper / lower ∨ exponent = -1074 := by
    refine hlow.imp_left fun hlow => ?_
    rw [← Nat.floor_div_eq_div (K := ℚ), Nat.le_floor_iff (by positivity)]
    exact_mod_cast hlow
  rcases nearestWhole_cases upper lower with hnear | hnear <;> rw [hnear]
  · exact exists_ofScaled?_eq_some (by omega) (by omega) (by omega) hnormal
  · exact exists_ofScaled?_eq_some (by omega) (by omega) (by omega) (by omega)

/-- A whole number of 64 bits has a nearest double that is finite. -/
theorem isFinite_ofInt {n : ℤ} (hbound : n.natAbs < 2 ^ 64) : (ofInt n).isFinite = true := by
  suffices hsome : ∃ magnitude, Magnitude.ofDecimal? ⟨n.natAbs, 0⟩ = some magnitude by
    obtain ⟨magnitude, hmagnitude⟩ := hsome
    rw [ofInt, ofDecimal, hmagnitude]
    rfl
  unfold Magnitude.ofDecimal?
  rcases Nat.eq_zero_or_pos n.natAbs with hzero | hpos
  · exact ⟨_, if_pos hzero⟩
  · have hplaces : Decimal.places n.natAbs < 21 := by
      rw [← Nat.pow_lt_pow_iff_right (by decide : 1 < 10)]
      exact lt_of_le_of_lt (Decimal.pow_places_le hpos) (by omega)
    rw [if_neg hpos.ne']
    simp only
    rw [if_neg (by omega), if_neg (by omega)]
    apply exists_ofFraction?_eq_some
    · simpa [Decimal.fraction] using hpos
    · simp [Decimal.fraction]
    · have hlt : (n.natAbs : ℚ) < 2 ^ 64 := by exact_mod_cast hbound
      have hfraction : (⟨n.natAbs, 0⟩ : Decimal).fraction = (n.natAbs, 1) := by
        simp [Decimal.fraction]
      rw [hfraction, Nat.cast_one, div_one]
      refine lt_trans hlt ?_
      rw [← zpow_natCast]
      exact zpow_lt_zpow_right₀ (by norm_num) (by norm_num)

end MetricBridge.Binary64
