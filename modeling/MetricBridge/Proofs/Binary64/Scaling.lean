/-
# Decimals rounded in steps

What multiplying and dividing by powers of ten comes to, step by step: a power of ten is the
magnitude nearest to it, and each product and quotient is the magnitude nearest to the exact one.
With an exponent beyond 308 there is no product, except of zero, and a quotient takes several
steps. Nothing is said of how close the result is to the decimal itself.
-/

import Mathlib
import MetricBridge.Binary64.Scaling
import MetricBridge.Proofs.Binary64.Nearest

namespace MetricBridge.Binary64.Magnitude

/-- Scaling a magnitude by a power of ten, with a rounding of the power and one of the result. -/
inductive Scales : (exponent : ℤ) → (magnitude result : Magnitude) → Prop
  | raise {power : ℕ} {magnitude ten result : Magnitude} (hpower : power ≤ 308)
      (hten : ten.IsNearest (10 ^ power))
      (hresult : result.IsNearest (magnitude.toRat * ten.toRat)) : Scales power magnitude result
  | lower {power : ℕ} {magnitude ten result : Magnitude} (hpos : 0 < power) (hpower : power ≤ 308)
      (hten : ten.IsNearest (10 ^ power))
      (hresult : result.IsNearest (magnitude.toRat / ten.toRat)) : Scales (-power) magnitude result
  | zero {exponent : ℤ} (hexponent : 308 < exponent.natAbs) : Scales exponent zero zero
  /-- A greater power of ten is divided by in steps. -/
  | more {power : ℕ} {magnitude ten between result : Magnitude} (hpower : 308 < power)
      (hsome : magnitude ≠ Magnitude.zero) (hten : ten.IsNearest (10 ^ 308))
      (hbetween : between.IsNearest (magnitude.toRat / ten.toRat))
      (hscales : Scales (-(power - 308 : ℕ)) between result) : Scales (-power) magnitude result

/-! ### Single steps -/

section Steps

variable {magnitude factor result : Magnitude}

theorem fraction_snd_pos (magnitude : Magnitude) : 0 < magnitude.fraction.2 :=
  Nat.pow_pos (by decide)

theorem times?_eq_some_iff :
    magnitude.times? factor = some result ↔
      result.IsNearest (magnitude.toRat * factor.toRat) := by
  have hden : 0 < magnitude.fraction.2 * factor.fraction.2 :=
    Nat.mul_pos magnitude.fraction_snd_pos factor.fraction_snd_pos
  rw [times?, ofFraction?_eq_some_iff _ hden, ← magnitude_fraction_eq magnitude,
    ← magnitude_fraction_eq factor, div_mul_div_comm]
  push_cast
  rfl

theorem over?_eq_some_iff (hpos : 0 < factor.significand) :
    magnitude.over? factor = some result ↔
      result.IsNearest (magnitude.toRat / factor.toRat) := by
  have hnum : 0 < factor.fraction.1 := Nat.mul_pos hpos (Nat.pow_pos (by decide))
  rw [over?, ofFraction?_eq_some_iff _ (Nat.mul_pos magnitude.fraction_snd_pos hnum),
    ← magnitude_fraction_eq magnitude, ← magnitude_fraction_eq factor, div_div_div_eq]
  push_cast
  rfl

theorem tenTo?_eq_some_iff {power : ℕ} {ten : Magnitude} :
    tenTo? power = some ten ↔ ten.IsNearest (10 ^ power) := by
  rw [tenTo?, ofFraction?_eq_some_iff _ Nat.one_pos, Nat.pow_eq]
  push_cast
  rw [div_one]

/-- One is a magnitude, so that a number from one on is not rounded to zero. -/
theorem significand_pos_of_one_le {number : ℚ} (hone : 1 ≤ number)
    (hnearest : magnitude.IsNearest number) : 0 < magnitude.significand := by
  rcases Nat.eq_zero_or_pos magnitude.significand with hzero | hpos
  · have hclosest := hnearest.closest (ofWhole 1 (by decide) (by decide))
    have hvalue : magnitude.toRat = 0 := by simp [toRat, hzero]
    rw [hvalue, toRat_ofWhole, zero_sub, abs_neg, abs_of_nonneg (by linarith), Nat.cast_one,
      abs_of_nonpos (by linarith)] at hclosest
    linarith
  · exact hpos

theorem significand_pos_of_ten {power : ℕ} (hten : magnitude.IsNearest (10 ^ power)) :
    0 < magnitude.significand :=
  significand_pos_of_one_le (one_le_pow₀ (by norm_num)) hten

end Steps

/-! ### Scaling -/

section Scaling

variable {magnitude result : Magnitude}

theorem significand_eq_zero_iff : magnitude.significand = 0 ↔ magnitude = zero :=
  ⟨eq_zero_of_significand_eq_zero, fun hzero => hzero ▸ rfl⟩

theorem raised?_eq_some_iff {power : ℕ} :
    magnitude.raised? power = some result ↔ Scales power magnitude result := by
  constructor
  · intro hraised
    rw [raised?, greatestPower] at hraised
    split_ifs at hraised with hpower hzero
    · obtain ⟨ten, hten, hresult⟩ := Option.bind_eq_some_iff.1 hraised
      exact .raise hpower (tenTo?_eq_some_iff.1 hten) (times?_eq_some_iff.1 hresult)
    · obtain rfl := Option.some.inj hraised
      rw [significand_eq_zero_iff.1 hzero]
      exact .zero (by omega)
  · intro hscales
    generalize hexponent : (power : ℤ) = exponent at hscales
    rw [raised?, greatestPower]
    cases hscales with
    | @raise power' _ ten _ hpower hten hresult =>
      obtain rfl : power = power' := by omega
      rw [if_pos hpower, tenTo?_eq_some_iff.2 hten]
      exact times?_eq_some_iff.2 hresult
    | lower hpos => omega
    | zero hlarge =>
      rw [if_neg (by omega)]
      rfl
    | more hpower => omega

theorem scales_of_lowered? {power : ℕ} (hpos : 0 < power)
    (hlowered : magnitude.lowered? power = some result) : Scales (-power) magnitude result := by
  induction power using Nat.strong_induction_on generalizing magnitude with
  | h power ih =>
    rw [lowered?, greatestPower] at hlowered
    split_ifs at hlowered with hpower hzero
    · obtain ⟨ten, hten, hresult⟩ := Option.bind_eq_some_iff.1 hlowered
      rw [tenTo?_eq_some_iff] at hten
      exact .lower hpos hpower hten
        ((over?_eq_some_iff (significand_pos_of_ten hten)).1 hresult)
    · obtain rfl := Option.some.inj hlowered
      rw [significand_eq_zero_iff.1 hzero]
      exact .zero (by omega)
    · obtain ⟨between, hbetween, hrest⟩ := Option.bind_eq_some_iff.1 hlowered
      obtain ⟨ten, hten, hbetween⟩ := Option.bind_eq_some_iff.1 hbetween
      rw [tenTo?_eq_some_iff] at hten
      rw [over?_eq_some_iff (significand_pos_of_ten hten)] at hbetween
      exact .more (by omega) (fun hnull => hzero (significand_eq_zero_iff.2 hnull)) hten hbetween
        (ih (power - 308) (by omega) (by omega) hrest)

theorem lowered?_of_scales {power : ℕ} (hpos : 0 < power)
    (hscales : Scales (-power) magnitude result) : magnitude.lowered? power = some result := by
  generalize hexponent : (-power : ℤ) = exponent at hscales
  induction hscales generalizing power with
  | raise => omega
  | @lower power' magnitude ten result _ hpower hten hresult =>
    obtain rfl : power = power' := by omega
    rw [lowered?, greatestPower, if_pos hpower, tenTo?_eq_some_iff.2 hten]
    exact (over?_eq_some_iff (significand_pos_of_ten hten)).2 hresult
  | zero hlarge =>
    rw [lowered?, greatestPower, if_neg (by omega)]
    rfl
  | @more power' magnitude ten between result hpower hsome hten hbetween _ ih =>
    obtain rfl : power = power' := by omega
    rw [← over?_eq_some_iff (significand_pos_of_ten hten)] at hbetween
    rw [lowered?, greatestPower, if_neg (by omega), if_neg (significand_eq_zero_iff.not.2 hsome),
      tenTo?_eq_some_iff.2 hten, Option.bind_some, hbetween, Option.bind_some]
    exact ih (by omega) rfl

/-- A magnitude is nearest to itself. -/
theorem isNearest_toRat (magnitude : Magnitude) : magnitude.IsNearest magnitude.toRat := by
  rcases Nat.eq_zero_or_pos magnitude.significand with hzero | hpos
  · have hvalue : magnitude.toRat = 0 := by simp [toRat, hzero]
    rw [hvalue, isNearest_zero_iff]
    exact significand_eq_zero_iff.1 hzero
  · have hden := magnitude.fraction_snd_pos
    rw [← magnitude_fraction_eq, ← ofFraction?_eq_some_iff _ hden]
    exact ofFraction?_eq_some hpos hden (magnitude_fraction_eq magnitude)

/-- Scaling by one changes nothing. -/
theorem scales_zero_iff : Scales 0 magnitude result ↔ result = magnitude := by
  have hone : (ofWhole 1 (by decide) (by decide)).toRat = 1 := by simp [toRat_ofWhole]
  constructor
  · intro hscales
    generalize hexponent : (0 : ℤ) = exponent at hscales
    cases hscales with
    | @raise power _ ten _ _ hten hresult =>
      obtain rfl : power = 0 := by omega
      rw [pow_zero, ← hone] at hten
      have hvalue := hten.unique (toRat_nonneg _) (isNearest_toRat _)
      rw [hvalue, hone, mul_one] at hresult
      exact hresult.unique magnitude.toRat_nonneg magnitude.isNearest_toRat
    | lower hpos => omega
    | zero hlarge => omega
    | more hpower => omega
  · rintro rfl
    have hten := isNearest_toRat (ofWhole 1 (by decide) (by decide))
    refine .raise (Nat.zero_le _) (by rwa [pow_zero, ← hone]) ?_
    rw [hone, mul_one]
    exact isNearest_toRat _

/-- A decimal is rounded in steps to the coefficient, rounded, and scaled by the power of ten. -/
theorem ofScaledDecimal?_eq_some_iff {decimal : Decimal} :
    ofScaledDecimal? decimal = some result ↔
      ∃ start : Magnitude, start.IsNearest decimal.coefficient ∧
        Scales decimal.exponent start result := by
  have hstart (start : Magnitude) :
      ofFraction? decimal.coefficient 1 = some start ↔ start.IsNearest decimal.coefficient := by
    rw [ofFraction?_eq_some_iff _ Nat.one_pos, Nat.cast_one, div_one]
  have hscale (start : Magnitude) :
      (if 0 ≤ decimal.exponent then start.raised? decimal.exponent.toNat
        else start.lowered? (-decimal.exponent).toNat) = some result ↔
      Scales decimal.exponent start result := by
    split_ifs with hsign
    · rw [raised?_eq_some_iff, Int.toNat_of_nonneg hsign]
    · have hpos : 0 < (-decimal.exponent).toNat := by omega
      have hback : -((-decimal.exponent).toNat : ℤ) = decimal.exponent := by omega
      constructor
      · intro hlowered
        simpa only [hback] using scales_of_lowered? hpos hlowered
      · intro hscales
        exact lowered?_of_scales hpos (by rwa [hback])
  simp only [ofScaledDecimal?, Option.bind_eq_some_iff, hstart, hscale]

end Scaling

end MetricBridge.Binary64.Magnitude
