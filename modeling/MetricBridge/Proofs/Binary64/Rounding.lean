/-
# What a double denotes is rounded to itself

Reading is rounding, so a text reads back as the double it was written for exactly when its
decimal is rounded to that double. Magnitudes and decimals are compared here as
rational numbers: the order of a fraction is its logarithm, every magnitude is its own
nearest one, and the search for the shortest decimal ends in one that reads back.
Whole numbers of at most 53 bits are doubles without any rounding.
-/

import Mathlib
import MetricBridge.Binary64.Rounding
import MetricBridge.Binary64.Shortest
import MetricBridge.Proofs.Decimal.Numerals

namespace MetricBridge

/-- The rational number that a decimal denotes. -/
def Decimal.toRat (decimal : Decimal) : ℚ :=
  decimal.coefficient * (10 : ℚ) ^ decimal.exponent

namespace Binary64

/-- The rational number that a magnitude denotes. -/
def Magnitude.toRat (magnitude : Magnitude) : ℚ :=
  magnitude.significand * (2 : ℚ) ^ magnitude.exponent

/-- A power with an integer exponent as a fraction of natural powers. -/
theorem zpow_eq_toNat_div (base : ℚ) (exponent : ℤ) :
    base ^ exponent = base ^ exponent.toNat / base ^ (-exponent).toNat := by
  rcases Int.eq_nat_or_neg exponent with ⟨n, rfl | rfl⟩
  · simp
  · simp

theorem pos_toRat {magnitude : Magnitude} (hpos : 0 < magnitude.significand) :
    0 < magnitude.toRat := by
  have hsignificand : (0 : ℚ) < magnitude.significand := by exact_mod_cast hpos
  have := zpow_pos (by norm_num : (0 : ℚ) < 2) magnitude.exponent
  exact mul_pos hsignificand this

theorem decimal_fraction_eq (decimal : Decimal) :
    (decimal.fraction.1 : ℚ) / decimal.fraction.2 = decimal.toRat := by
  rw [Decimal.toRat, zpow_eq_toNat_div, Decimal.fraction]
  simp only [Nat.pow_eq]
  push_cast
  ring

theorem magnitude_fraction_eq (magnitude : Magnitude) :
    (magnitude.fraction.1 : ℚ) / magnitude.fraction.2 = magnitude.toRat := by
  rw [Magnitude.toRat, zpow_eq_toNat_div, Magnitude.fraction]
  simp only [Nat.pow_eq]
  push_cast
  ring

/-! ### The power of two below a fraction -/

/-- Comparing a fraction with a power of two in whole numbers. -/
theorem scaled_le_iff {numerator denominator : Nat} (hden : 0 < denominator) (k : ℤ) :
    denominator * 2 ^ k.toNat ≤ numerator * 2 ^ (-k).toNat ↔
      (2 : ℚ) ^ k ≤ numerator / denominator := by
  have hden' : (0 : ℚ) < denominator := by exact_mod_cast hden
  have hscale : (0 : ℚ) < 2 ^ (-k).toNat := by positivity
  rw [zpow_eq_toNat_div, div_le_div_iff₀ hscale hden',
    mul_comm ((2 : ℚ) ^ k.toNat)]
  exact_mod_cast Iff.rfl

/-- The order of a fraction is its logarithm, rounded down. -/
theorem binaryOrder_eq_log {numerator denominator : Nat} (hnum : 0 < numerator)
    (hden : 0 < denominator) :
    binaryOrder numerator denominator = Int.log 2 ((numerator : ℚ) / denominator) := by
  have hnum' : (0 : ℚ) < numerator := by exact_mod_cast hnum
  have hden' : (0 : ℚ) < denominator := by exact_mod_cast hden
  have hratio : (0 : ℚ) < (numerator : ℚ) / denominator := div_pos hnum' hden'
  have hnumLow : (2 : ℚ) ^ numerator.log2 ≤ numerator := by
    exact_mod_cast Nat.log2_self_le hnum.ne'
  have hnumHigh : (numerator : ℚ) < 2 ^ (numerator.log2 + 1) := by
    exact_mod_cast Nat.lt_log2_self
  have hdenLow : (2 : ℚ) ^ denominator.log2 ≤ denominator := by
    exact_mod_cast Nat.log2_self_le hden.ne'
  have hdenHigh : (denominator : ℚ) < 2 ^ (denominator.log2 + 1) := by
    exact_mod_cast Nat.lt_log2_self
  set estimate : ℤ := (numerator.log2 : ℤ) - denominator.log2 with hestimate
  have hbelow : (2 : ℚ) ^ (estimate - 1) ≤ numerator / denominator := by
    have hpow : (2 : ℚ) ^ (estimate - 1) =
        2 ^ numerator.log2 / 2 ^ (denominator.log2 + 1) := by
      rw [← zpow_natCast, ← zpow_natCast, ← zpow_sub₀ (by norm_num)]
      congr 1
      push_cast
      omega
    rw [hpow, div_le_div_iff₀ (by positivity) hden']
    exact mul_le_mul hnumLow hdenHigh.le hden'.le hnum'.le
  have habove : (numerator : ℚ) / denominator < 2 ^ (estimate + 1) := by
    have hpow : (2 : ℚ) ^ (estimate + 1) =
        2 ^ (numerator.log2 + 1) / 2 ^ denominator.log2 := by
      rw [← zpow_natCast, ← zpow_natCast, ← zpow_sub₀ (by norm_num)]
      congr 1
      push_cast
      omega
    rw [hpow, div_lt_div_iff₀ hden' (by positivity)]
    exact mul_lt_mul hnumHigh hdenLow (by positivity) (by positivity)
  have hlogLow : estimate - 1 ≤ Int.log 2 ((numerator : ℚ) / denominator) :=
    (Int.zpow_le_iff_le_log (by decide) hratio).1 (by exact_mod_cast hbelow)
  have hlogHigh : Int.log 2 ((numerator : ℚ) / denominator) < estimate + 1 :=
    (Int.lt_zpow_iff_log_lt (by decide) hratio).1 (by exact_mod_cast habove)
  have hcheck : denominator * 2 ^ estimate.toNat ≤ numerator * 2 ^ (-estimate).toNat ↔
      (2 : ℚ) ^ estimate ≤ numerator / denominator := scaled_le_iff hden estimate
  have hlog : (2 : ℚ) ^ estimate ≤ numerator / denominator ↔
      estimate ≤ Int.log 2 ((numerator : ℚ) / denominator) := by
    exact_mod_cast Int.zpow_le_iff_le_log (b := 2) (by decide) hratio
  unfold binaryOrder
  simp only [← hestimate]
  split
  next hle => have := hlog.1 (hcheck.1 hle); omega
  next hlt =>
    have : ¬estimate ≤ Int.log 2 ((numerator : ℚ) / denominator) := fun hle =>
      hlt (hcheck.2 (hlog.2 hle))
    omega

/-! ### What a double denotes is rounded to itself -/

theorem nearestWhole_mul {denominator : Nat} (hden : 0 < denominator) (whole : Nat) :
    nearestWhole (whole * denominator) denominator = whole := by
  simp [nearestWhole, Nat.mul_div_cancel _ hden, hden]

/-- The exponent that is chosen for the value of a magnitude is its own. -/
theorem exponent_eq_of_toRat {magnitude : Magnitude} (hpos : 0 < magnitude.significand) :
    max (-1074) (Int.log 2 magnitude.toRat - 52) = magnitude.exponent := by
  obtain ⟨hbound, hleast, -, hnormal⟩ := magnitude.canonical
  have hvalue := pos_toRat hpos
  have hscale : (0 : ℚ) < 2 ^ magnitude.exponent := zpow_pos (by norm_num) _
  have habove : Int.log 2 magnitude.toRat < magnitude.exponent + 53 := by
    rw [← Int.lt_zpow_iff_log_lt (by decide) hvalue, Magnitude.toRat]
    push_cast
    rw [add_comm, zpow_add₀ (by norm_num)]
    have : (magnitude.significand : ℚ) < 2 ^ (53 : ℤ) := by exact_mod_cast hbound
    exact mul_lt_mul_of_pos_right this hscale
  rcases hnormal with hlarge | hsubnormal
  · have hbelow : magnitude.exponent + 52 ≤ Int.log 2 magnitude.toRat := by
      rw [← Int.zpow_le_iff_le_log (by decide) hvalue, Magnitude.toRat]
      push_cast
      rw [add_comm, zpow_add₀ (by norm_num)]
      have : (2 : ℚ) ^ (52 : ℤ) ≤ magnitude.significand := by exact_mod_cast hlarge
      exact mul_le_mul_of_nonneg_right this hscale.le
    omega
  · omega

/-- A fraction with the value of a magnitude is rounded to that magnitude. -/
theorem ofFraction?_eq_some {magnitude : Magnitude} (hpos : 0 < magnitude.significand)
    {numerator denominator : Nat} (hden : 0 < denominator)
    (hvalue : (numerator : ℚ) / denominator = magnitude.toRat) :
    Magnitude.ofFraction? numerator denominator = some magnitude := by
  have hden' : (denominator : ℚ) ≠ 0 := by exact_mod_cast hden.ne'
  have hnum : 0 < numerator := by
    have hratio := hvalue ▸ pos_toRat hpos
    rcases Nat.eq_zero_or_pos numerator with rfl | hpositive
    · simp at hratio
    · exact hpositive
  have hexponent : max (-1074) (binaryOrder numerator denominator - 52) =
      magnitude.exponent := by
    rw [binaryOrder_eq_log hnum hden, hvalue, exponent_eq_of_toRat hpos]
  have hexact : numerator * 2 ^ (-magnitude.exponent).toNat =
      magnitude.significand * (denominator * 2 ^ magnitude.exponent.toNat) := by
    rw [Magnitude.toRat, zpow_eq_toNat_div, mul_div_assoc',
      div_eq_div_iff hden' (by positivity)] at hvalue
    have hcross : (numerator : ℚ) * 2 ^ (-magnitude.exponent).toNat =
        magnitude.significand * (denominator * 2 ^ magnitude.exponent.toNat) := by
      rw [hvalue]
      ring
    exact_mod_cast hcross
  have hscale : 0 < denominator * 2 ^ magnitude.exponent.toNat := by positivity
  unfold Magnitude.ofFraction?
  rw [if_neg (by omega)]
  simp only [Nat.pow_eq, hexponent, hexact, nearestWhole_mul hscale]
  rw [Magnitude.ofScaled?, dif_pos magnitude.canonical]

theorem two_pow_1024_lt : (2 : Nat) ^ 1024 < 10 ^ 309 := by decide +kernel

theorem two_pow_1074_lt : (2 : Nat) ^ 1074 < 10 ^ 324 := by decide +kernel

/-- The greatest finite magnitude has 309 places before the point. -/
theorem toRat_lt (magnitude : Magnitude) : magnitude.toRat < 10 ^ (309 : ℤ) := by
  obtain ⟨hbound, -, hgreatest, -⟩ := magnitude.canonical
  have hsignificand : (magnitude.significand : ℚ) < 2 ^ (53 : ℤ) := by exact_mod_cast hbound
  calc magnitude.toRat
      < 2 ^ (53 : ℤ) * 2 ^ magnitude.exponent :=
        mul_lt_mul_of_pos_right hsignificand (zpow_pos (by norm_num) _)
    _ = 2 ^ (53 + magnitude.exponent) := (zpow_add₀ (by norm_num) _ _).symm
    _ ≤ 2 ^ (1024 : ℤ) := zpow_le_zpow_right₀ (by norm_num) (by omega)
    _ < 10 ^ (309 : ℤ) := by exact_mod_cast two_pow_1024_lt

/-- The least positive magnitude is at place 324 behind the point. -/
theorem lt_toRat {magnitude : Magnitude} (hpos : 0 < magnitude.significand) :
    (10 : ℚ) ^ (-324 : ℤ) < magnitude.toRat := by
  obtain ⟨-, hleast, -, -⟩ := magnitude.canonical
  have hsignificand : (1 : ℚ) ≤ magnitude.significand := by exact_mod_cast hpos
  calc (10 : ℚ) ^ (-324 : ℤ)
      < 2 ^ (-1074 : ℤ) := by
        rw [zpow_neg, zpow_neg, inv_lt_inv₀ (by positivity) (by positivity)]
        exact_mod_cast two_pow_1074_lt
    _ ≤ 2 ^ magnitude.exponent := zpow_le_zpow_right₀ (by norm_num) hleast
    _ = 1 * 2 ^ magnitude.exponent := (one_mul _).symm
    _ ≤ magnitude.toRat :=
        mul_le_mul_of_nonneg_right hsignificand (zpow_pos (by norm_num) _).le

/-- The places of a decimal and its exponent bound its value. -/
theorem Decimal.toRat_lt_pow (decimal : Decimal) :
    decimal.toRat < 10 ^ (decimal.exponent + Decimal.places decimal.coefficient) := by
  have hcoefficient : (decimal.coefficient : ℚ) <
      10 ^ (Decimal.places decimal.coefficient : ℤ) := by
    exact_mod_cast Decimal.lt_pow_places decimal.coefficient
  rw [Decimal.toRat, add_comm, zpow_add₀ (by norm_num)]
  exact mul_lt_mul_of_pos_right hcoefficient (zpow_pos (by norm_num) _)

theorem Decimal.pow_le_toRat {decimal : Decimal} (hpos : 0 < decimal.coefficient) :
    10 ^ (decimal.exponent + Decimal.places decimal.coefficient) ≤ 10 * decimal.toRat := by
  have hcoefficient : (10 : ℚ) ^ (Decimal.places decimal.coefficient : ℤ) ≤
      10 * decimal.coefficient := by
    exact_mod_cast Decimal.pow_places_le hpos
  rw [Decimal.toRat, add_comm, zpow_add₀ (by norm_num), ← mul_assoc]
  exact mul_le_mul_of_nonneg_right hcoefficient (zpow_pos (by norm_num) _).le

/-- A decimal with the value of a magnitude is read as that magnitude. -/
theorem ofDecimal?_eq_some {magnitude : Magnitude} (hpos : 0 < magnitude.significand)
    {decimal : Decimal} (hvalue : decimal.toRat = magnitude.toRat) :
    Magnitude.ofDecimal? decimal = some magnitude := by
  have hcoefficient : 0 < decimal.coefficient := by
    have hpositive := hvalue ▸ pos_toRat hpos
    rcases Nat.eq_zero_or_pos decimal.coefficient with hzero | hpositive'
    · simp [Decimal.toRat, hzero] at hpositive
    · exact hpositive'
  have hhigh : decimal.exponent + Decimal.places decimal.coefficient < 310 := by
    rw [← zpow_lt_zpow_iff_right₀ (by norm_num : (1 : ℚ) < 10)]
    calc (10 : ℚ) ^ (decimal.exponent + Decimal.places decimal.coefficient)
        ≤ 10 * decimal.toRat := Decimal.pow_le_toRat hcoefficient
      _ < 10 * 10 ^ (309 : ℤ) := by
          rw [hvalue]
          exact mul_lt_mul_of_pos_left (toRat_lt magnitude) (by norm_num)
      _ = 10 ^ (310 : ℤ) := (zpow_one_add₀ (by norm_num) 309).symm
  have hlow : -324 < decimal.exponent + Decimal.places decimal.coefficient := by
    rw [← zpow_lt_zpow_iff_right₀ (by norm_num : (1 : ℚ) < 10)]
    calc (10 : ℚ) ^ (-324 : ℤ)
        < decimal.toRat := hvalue ▸ lt_toRat hpos
      _ < 10 ^ (decimal.exponent + Decimal.places decimal.coefficient) :=
          Decimal.toRat_lt_pow decimal
  have hden : 0 < decimal.fraction.2 := Nat.pow_pos (by decide)
  unfold Magnitude.ofDecimal?
  rw [if_neg (by omega)]
  simp only
  rw [if_neg (by omega), if_neg (by omega)]
  exact ofFraction?_eq_some hpos hden ((decimal_fraction_eq decimal).trans hvalue)

theorem eq_zero_of_significand_eq_zero {magnitude : Magnitude}
    (hzero : magnitude.significand = 0) : magnitude = Magnitude.zero := by
  obtain ⟨significand, exponent, canonical⟩ := magnitude
  simp only at hzero
  subst hzero
  have hexponent : exponent = -1074 := by
    obtain ⟨-, -, -, hnormal | hleast⟩ := canonical
    · exact absurd hnormal (by decide)
    · exact hleast
  subst hexponent
  rfl

/-! ### The shortest decimal reads back -/

theorem exactDecimal_toRat (magnitude : Magnitude) :
    magnitude.exactDecimal.toRat = magnitude.toRat := by
  unfold Magnitude.exactDecimal
  split
  next hwhole =>
    obtain ⟨n, hn⟩ := Int.eq_ofNat_of_zero_le hwhole
    simp [Decimal.toRat, Magnitude.toRat, hn]
  next hfraction =>
    obtain ⟨n, hn⟩ : ∃ n : Nat, magnitude.exponent = -(n : ℤ) :=
      ⟨(-magnitude.exponent).toNat, by omega⟩
    have hten : (10 : ℚ) ^ n = 5 ^ n * 2 ^ n := by
      rw [← mul_pow]
      norm_num
    simp only [Decimal.toRat, Magnitude.toRat, Nat.pow_eq, hn, neg_neg, Int.toNat_natCast,
      zpow_neg, zpow_natCast, hten]
    push_cast
    field_simp

theorem ofDecimal?_exactDecimal (magnitude : Magnitude) :
    Magnitude.ofDecimal? magnitude.exactDecimal = some magnitude := by
  rcases Nat.eq_zero_or_pos magnitude.significand with hzero | hpos
  · have hcoefficient : magnitude.exactDecimal.coefficient = 0 := by
      unfold Magnitude.exactDecimal
      split <;> simp [hzero]
    rw [Magnitude.ofDecimal?, if_pos hcoefficient, eq_zero_of_significand_eq_zero hzero]
  · exact ofDecimal?_eq_some hpos (exactDecimal_toRat magnitude)

/-- Whatever grid the search begins with, what it finds reads back. -/
theorem ofDecimal?_searchGrids (tie : Tie) (magnitude : Magnitude) (count : Nat) (exponent : ℤ) :
    Magnitude.ofDecimal? (magnitude.searchGrids tie count exponent) = some magnitude := by
  induction count generalizing exponent with
  | zero => exact ofDecimal?_exactDecimal magnitude
  | succ count ih =>
    unfold Magnitude.searchGrids
    split
    next decimal hfound => simpa using List.find?_some hfound
    next => exact ih _

theorem ofDecimal?_shortest (tie : Tie) (magnitude : Magnitude) :
    Magnitude.ofDecimal? (magnitude.shortest tie) = some magnitude :=
  ofDecimal?_searchGrids tie magnitude _ _

/-! ### Whole numbers -/

/-- A whole number of at most 53 bits as a magnitude. -/
def Magnitude.ofWhole (whole : Nat) (hpos : 0 < whole) (hbound : whole < 2 ^ 53) : Magnitude where
  significand := whole * 2 ^ (52 - whole.log2)
  exponent := -(52 - whole.log2 : Nat)
  canonical := by
    have hlog : whole.log2 ≤ 52 := Nat.le_of_lt_succ ((Nat.log2_lt hpos.ne').2 hbound)
    have hlow : 2 ^ whole.log2 * 2 ^ (52 - whole.log2) ≤ whole * 2 ^ (52 - whole.log2) :=
      Nat.mul_le_mul_right _ (Nat.log2_self_le hpos.ne')
    have hhigh : whole * 2 ^ (52 - whole.log2) < 2 ^ (whole.log2 + 1) * 2 ^ (52 - whole.log2) :=
      Nat.mul_lt_mul_of_pos_right Nat.lt_log2_self (by positivity)
    rw [← Nat.pow_add, show whole.log2 + (52 - whole.log2) = 52 by omega] at hlow
    rw [← Nat.pow_add, show whole.log2 + 1 + (52 - whole.log2) = 53 by omega] at hhigh
    exact ⟨hhigh, by omega, by omega, Or.inl hlow⟩

theorem toRat_ofWhole {whole : Nat} (hpos : 0 < whole) (hbound : whole < 2 ^ 53) :
    (Magnitude.ofWhole whole hpos hbound).toRat = whole := by
  simp [Magnitude.toRat, Magnitude.ofWhole, zpow_neg]

theorem floor_eq_floor_toRat (magnitude : Magnitude) :
    magnitude.floor = ⌊magnitude.toRat⌋₊ := by
  rw [← magnitude_fraction_eq, Nat.floor_div_eq_div, Magnitude.floor]

/-- An integer of at most 53 bits goes through a double unharmed. -/
theorem wholePart?_ofInt {n : ℤ} (hbound : n.natAbs < 2 ^ 53) :
    (ofInt n).wholePart? = some n := by
  have hread : ∃ magnitude : Magnitude,
      Magnitude.ofDecimal? ⟨n.natAbs, 0⟩ = some magnitude ∧ magnitude.floor = n.natAbs := by
    rcases Nat.eq_zero_or_pos n.natAbs with hzero | hpos
    · refine ⟨Magnitude.zero, by rw [hzero]; rfl, ?_⟩
      simp only [hzero, Magnitude.floor, Magnitude.fraction, Magnitude.zero, Nat.zero_mul,
        Nat.zero_div]
    · refine ⟨Magnitude.ofWhole n.natAbs hpos hbound, ofDecimal?_eq_some ?_ ?_, ?_⟩
      · exact Nat.mul_pos hpos (by positivity)
      · simp [toRat_ofWhole, Decimal.toRat]
      · rw [floor_eq_floor_toRat, toRat_ofWhole, Nat.floor_natCast]
  obtain ⟨magnitude, hread, hfloor⟩ := hread
  simp only [ofInt, ofDecimal, hread, wholePart?, hfloor, decide_eq_true_eq, Option.some.injEq]
  split <;> omega

end Binary64

end MetricBridge
