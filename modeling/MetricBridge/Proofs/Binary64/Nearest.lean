/-
# The magnitude nearest to a number

Rounding is told here apart from the function that rounds. A magnitude is nearest to a number if
none is closer, and if its significand is even in case another one is just as close. From the
middle between the greatest magnitude and the next power of two on, numbers are too great for
any. Below that bound a number that is not negative has exactly one nearest magnitude, and this
is what the rounding of a fraction finds.

All comparisons are made on the grid of the chosen exponent. A magnitude with a smaller exponent
need not lie on it, but then it is below the first power of two with 53 bits, which does.
-/

import Mathlib
import MetricBridge.Proofs.Binary64.Whole

namespace MetricBridge.Binary64

/-- From here on, numbers are too great to be rounded to a magnitude. -/
def overflowBound : ℚ :=
  (2 ^ 54 - 1) * 2 ^ 970

/-- The magnitude is the one that a number is rounded to: in the range of magnitudes, the
closest, and the one with the even significand if two are closest. -/
structure Magnitude.IsNearest (magnitude : Magnitude) (number : ℚ) : Prop where
  inRange : number < overflowBound
  closest : ∀ other : Magnitude, |magnitude.toRat - number| ≤ |other.toRat - number|
  even : ∀ other : Magnitude, |other.toRat - number| = |magnitude.toRat - number| →
    other ≠ magnitude → magnitude.significand % 2 = 0

/-! ### Whole numbers -/

/-- On the grid of the whole multiples of a number, the two neighbours of a place are closer to it
than the others. -/
theorem abs_mul_sub_cases {unit remainder : ℤ} (hnonneg : 0 ≤ remainder)
    (hless : remainder < unit) (steps : ℤ) :
    steps = 0 ∧ |steps * unit - remainder| = remainder ∨
      steps = 1 ∧ |steps * unit - remainder| = unit - remainder ∨
      unit ≤ |steps * unit - remainder| := by
  rcases lt_trichotomy steps 0 with hbelow | rfl | habove
  · have hmul : steps * unit ≤ (-1) * unit := by
      apply mul_le_mul_of_nonneg_right <;> omega
    refine Or.inr (Or.inr ?_)
    rw [abs_of_neg (by omega)]
    omega
  · refine Or.inl ⟨rfl, ?_⟩
    rw [zero_mul, zero_sub, abs_neg, abs_of_nonneg hnonneg]
  · rcases lt_or_ge steps 2 with hone | htwo
    · obtain rfl : steps = 1 := by omega
      refine Or.inr (Or.inl ⟨rfl, ?_⟩)
      rw [one_mul, abs_of_nonneg (by omega)]
    · have hmul : 2 * unit ≤ steps * unit := by
        apply mul_le_mul_of_nonneg_right <;> omega
      refine Or.inr (Or.inr ?_)
      rw [abs_of_nonneg (by omega)]
      omega

/-- No whole number is closer to a fraction than the nearest one, and of two that are closest it
is the even one. -/
theorem nearestWhole_closest (numerator : Nat) {denominator : Nat} (hden : 0 < denominator)
    (whole : ℤ) :
    |(nearestWhole numerator denominator : ℤ) * denominator - numerator| ≤
        |whole * denominator - numerator| ∧
      (|whole * denominator - numerator| =
          |(nearestWhole numerator denominator : ℤ) * denominator - numerator| →
        whole = nearestWhole numerator denominator ∨
          nearestWhole numerator denominator % 2 = 0 ∧ whole % 2 = 1) := by
  obtain ⟨quotient, hquotient⟩ : ∃ n, n = numerator / denominator := ⟨_, rfl⟩
  obtain ⟨remainder, hremainder⟩ : ∃ n, n = numerator % denominator := ⟨_, rfl⟩
  have hless : remainder < denominator := hremainder ▸ Nat.mod_lt _ hden
  have hplace (w : ℤ) : w * denominator - numerator = (w - quotient) * denominator - remainder := by
    have hparts : (numerator : ℤ) = denominator * quotient + remainder := by
      rw [hquotient, hremainder]
      exact_mod_cast (Nat.div_add_mod numerator denominator).symm
    rw [hparts]
    ring
  have hwhole := abs_mul_sub_cases (Int.natCast_nonneg remainder)
    (by exact_mod_cast hless : (remainder : ℤ) < denominator) (whole - quotient)
  have hdown : |((quotient : ℤ) - quotient) * denominator - remainder| = remainder := by
    rw [sub_self, zero_mul, zero_sub, abs_neg, Nat.abs_cast]
  have hup : |((quotient : ℤ) + 1 - quotient) * denominator - remainder| =
      denominator - remainder := by
    rw [add_sub_cancel_left, one_mul, abs_of_nonneg (by omega)]
  rw [hplace, hplace]
  unfold nearestWhole
  rw [← hquotient, ← hremainder]
  simp only
  split_ifs <;> push_cast <;> omega

/-- The same for the fraction as a number. -/
theorem abs_nearestWhole_sub_le (numerator : Nat) {denominator : Nat} (hden : 0 < denominator)
    (whole : ℤ) :
    |(nearestWhole numerator denominator : ℚ) - numerator / denominator| ≤
        |whole - (numerator : ℚ) / denominator| ∧
      (|whole - (numerator : ℚ) / denominator| =
          |(nearestWhole numerator denominator : ℚ) - numerator / denominator| →
        whole = nearestWhole numerator denominator ∨
          nearestWhole numerator denominator % 2 = 0 ∧ whole % 2 = 1) := by
  have hscaled (w : ℤ) : |(w : ℚ) - numerator / denominator| =
      (|w * denominator - numerator| : ℤ) / denominator := by
    have hden' : (0 : ℚ) < denominator := by exact_mod_cast hden
    rw [eq_div_iff hden'.ne', ← abs_of_pos hden', ← abs_mul, sub_mul, abs_of_pos hden',
      div_mul_cancel₀ _ hden'.ne']
    push_cast
    rfl
  have hnear : |(nearestWhole numerator denominator : ℚ) - numerator / denominator| =
      (|(nearestWhole numerator denominator : ℤ) * denominator - numerator| : ℤ) / denominator :=
    mod_cast hscaled (nearestWhole numerator denominator)
  obtain ⟨hclosest, htie⟩ := nearestWhole_closest numerator hden whole
  have hden' : (0 : ℚ) < denominator := by exact_mod_cast hden
  rw [hnear, hscaled, div_le_div_iff_of_pos_right hden', div_left_inj' hden'.ne']
  exact ⟨mod_cast hclosest, fun hequal => htie (mod_cast hequal)⟩

/-! ### Magnitudes on a grid -/

namespace Magnitude

theorem toRat_injective {magnitude other : Magnitude} (hsame : magnitude.toRat = other.toRat) :
    magnitude = other := by
  have hzero : ∀ magnitude : Magnitude, magnitude.toRat = 0 → magnitude = zero := by
    intro magnitude hvalue
    rcases Nat.eq_zero_or_pos magnitude.significand with hnone | hpos
    · exact eq_zero_of_significand_eq_zero hnone
    · exact absurd hvalue (pos_toRat hpos).ne'
  rcases Nat.eq_zero_or_pos magnitude.significand with hnone | hpos
  · have hvalue : magnitude.toRat = 0 := by simp [toRat, hnone]
    rw [hzero magnitude hvalue, hzero other (hsame ▸ hvalue)]
  · have hother : 0 < other.significand := by
      refine Nat.pos_of_ne_zero fun hnone => (pos_toRat hpos).ne' ?_
      rw [hsame]
      simp [toRat, hnone]
    have hden : 0 < magnitude.fraction.2 := Nat.pow_pos (by decide)
    have hfirst := ofFraction?_eq_some hpos hden (magnitude_fraction_eq magnitude)
    have hsecond := ofFraction?_eq_some hother hden ((magnitude_fraction_eq magnitude).trans hsame)
    exact Option.some.inj (hfirst.symm.trans hsecond)

/-- A magnitude is on the grid of an exponent, or below the numbers with 53 bits there. Where it
is on the grid at an odd place, its significand is odd. -/
theorem grid_cases (magnitude : Magnitude) (exponent : ℤ) :
    (∃ place : ℕ, magnitude.toRat / 2 ^ exponent = place ∧
      (place % 2 = 1 → magnitude.significand % 2 = 1)) ∨
    -1074 < exponent ∧ magnitude.toRat / 2 ^ exponent < 2 ^ 52 := by
  obtain ⟨hbound, hleast, -, -⟩ := magnitude.canonical
  have hratio : magnitude.toRat / 2 ^ exponent =
      magnitude.significand * 2 ^ (magnitude.exponent - exponent) := by
    rw [toRat, zpow_sub₀ two_ne_zero, mul_div_assoc]
  rw [hratio]
  rcases le_or_gt exponent magnitude.exponent with hfine | hcoarse
  · obtain ⟨steps, hsteps⟩ := Int.eq_ofNat_of_zero_le (sub_nonneg.2 hfine)
    refine Or.inl ⟨magnitude.significand * 2 ^ steps, ?_, fun hodd => ?_⟩
    · rw [hsteps]
      push_cast
      rfl
    · cases steps with
      | zero => simpa using hodd
      | succ steps =>
        rw [pow_succ, ← mul_assoc, Nat.mul_mod_left] at hodd
        cases hodd
  · refine Or.inr ⟨by omega, ?_⟩
    have hsignificand : (magnitude.significand : ℚ) < 2 ^ (53 : ℤ) := by exact_mod_cast hbound
    calc (magnitude.significand : ℚ) * 2 ^ (magnitude.exponent - exponent)
        < 2 ^ (53 : ℤ) * 2 ^ (magnitude.exponent - exponent) :=
          mul_lt_mul_of_pos_right hsignificand (by positivity)
      _ = 2 ^ (53 + (magnitude.exponent - exponent)) := (zpow_add₀ two_ne_zero _ _).symm
      _ ≤ 2 ^ (52 : ℤ) := zpow_le_zpow_right₀ (by norm_num) (by omega)
      _ = 2 ^ 52 := by norm_cast

/-- Distances are measured on the grid. -/
theorem abs_toRat_sub_eq (magnitude : Magnitude) (number : ℚ) (exponent : ℤ) :
    |magnitude.toRat - number| =
      |magnitude.toRat / 2 ^ exponent - number / 2 ^ exponent| * 2 ^ exponent := by
  have hscale : (0 : ℚ) < 2 ^ exponent := by positivity
  rw [← sub_div, abs_div, abs_of_pos hscale, div_mul_cancel₀ _ hscale.ne']

/-- What the carry into the 54th bit gives has the value and the parity of the significand. -/
theorem toRat_of_ofScaled? {significand : Nat} {exponent : ℤ} {magnitude : Magnitude}
    (hscaled : ofScaled? significand exponent = some magnitude) :
    magnitude.toRat = significand * 2 ^ exponent ∧
      (significand % 2 = 0 → magnitude.significand % 2 = 0) ∧
      exponent ≤ 971 ∧ (exponent = 971 → significand < 2 ^ 53) := by
  unfold ofScaled? at hscaled
  split_ifs at hscaled with hcanonical hcarry
  · cases hscaled
    exact ⟨rfl, id, hcanonical.2.2.1, fun _ => hcanonical.1⟩
  · cases hscaled
    have hnext : exponent + 1 ≤ 971 := hcarry.2.2.2.1
    have hvalue : ((Nat.pow 2 52 : Nat) : ℚ) * 2 ^ (exponent + 1) = significand * 2 ^ exponent := by
      rw [hcarry.1, zpow_add₀ two_ne_zero, Nat.pow_eq, Nat.pow_eq]
      push_cast
      ring
    have heven : Nat.pow 2 52 % 2 = 0 := by decide
    exact ⟨hvalue, fun _ => heven, by omega, by omega⟩

end Magnitude

/-! ### Rounding finds the nearest magnitude -/

/-- What rounding makes of a number on the grid of the exponent it chooses. The number has 53 bits
there, unless the exponent is the least one, and the place is the nearest whole number. -/
structure Rounds (number : ℚ) (exponent : ℤ) (place : ℕ) : Prop where
  exponent_eq : exponent = max (-1074) (Int.log 2 number - 52)
  below : number / 2 ^ exponent < 2 ^ 53
  normal : 2 ^ 52 ≤ number / 2 ^ exponent ∨ exponent = -1074
  closest : ∀ whole : ℤ, |place - number / 2 ^ exponent| ≤ |whole - number / 2 ^ exponent|
  tie : ∀ whole : ℤ, |whole - number / 2 ^ exponent| = |place - number / 2 ^ exponent| →
    whole = place ∨ place % 2 = 0 ∧ whole % 2 = 1

theorem exists_rounds {numerator denominator : Nat} (hnum : 0 < numerator)
    (hden : 0 < denominator) :
    ∃ exponent place,
      Magnitude.ofFraction? numerator denominator = Magnitude.ofScaled? place exponent ∧
      Rounds ((numerator : ℚ) / denominator) exponent place := by
  have hpos : (0 : ℚ) < (numerator : ℚ) / denominator := by positivity
  set exponent : ℤ := max (-1074) (Int.log 2 ((numerator : ℚ) / denominator) - 52) with hexponent
  have hgrid : 0 < denominator * 2 ^ exponent.toNat := by positivity
  have hnear := abs_nearestWhole_sub_le (numerator * 2 ^ (-exponent).toNat) hgrid
  rw [scaled_div_eq] at hnear
  obtain ⟨hbelow, hnormal⟩ := scaled_bounds hpos hexponent
  refine ⟨exponent, _, ?_, hexponent, hbelow, hnormal, fun whole => (hnear whole).1,
    fun whole => (hnear whole).2⟩
  unfold Magnitude.ofFraction?
  rw [if_neg (by omega)]
  simp only [Nat.pow_eq, binaryOrder_eq_log hnum hden, ← hexponent]

namespace Rounds

variable {number : ℚ} {exponent : ℤ} {place : ℕ}

/-- No magnitude is closer than the place, and one that is as close at an even place is odd. -/
theorem closest_toRat (hrounds : Rounds number exponent place) (other : Magnitude) :
    |place - number / 2 ^ exponent| ≤ |other.toRat / 2 ^ exponent - number / 2 ^ exponent| ∧
      (|other.toRat / 2 ^ exponent - number / 2 ^ exponent| = |place - number / 2 ^ exponent| →
        other.toRat / 2 ^ exponent = place ∨ place % 2 = 0 ∧ other.significand % 2 = 1) := by
  rcases other.grid_cases exponent with ⟨step, hstep, hparity⟩ | ⟨hcoarse, hsmall⟩
  · have hclosest := hrounds.closest step
    have htie := hrounds.tie step
    rw [hstep]
    push_cast at hclosest htie
    refine ⟨hclosest, fun hequal => ?_⟩
    rcases htie hequal with hsame | ⟨heven, hodd⟩
    · exact Or.inl (by exact_mod_cast hsame)
    · exact Or.inr ⟨heven, hparity (by omega)⟩
  · -- the first number with 53 bits lies between the magnitude and the number
    have hlarge := hrounds.normal.resolve_right (by omega)
    have hless : |place - number / 2 ^ exponent| <
        |other.toRat / 2 ^ exponent - number / 2 ^ exponent| := by
      refine lt_of_le_of_lt (hrounds.closest (2 ^ 52)) ?_
      push_cast
      rw [abs_of_nonpos (by linarith), abs_of_nonpos (by linarith)]
      linarith
    exact ⟨hless.le, fun hequal => absurd hequal hless.ne'⟩

theorem place_le (hrounds : Rounds number exponent place) : place ≤ 2 ^ 53 := by
  have hclosest := hrounds.closest (2 ^ 53)
  have hbelow := hrounds.below
  rw [Int.cast_pow, Int.cast_ofNat] at hclosest
  rw [abs_of_pos (sub_pos.2 hbelow)] at hclosest
  have hplace : (place : ℚ) ≤ 2 ^ 53 := by linarith [(abs_le.1 hclosest).2]
  exact_mod_cast hplace

theorem le_place (hrounds : Rounds number exponent place) :
    2 ^ 52 ≤ place ∨ exponent = -1074 := by
  refine hrounds.normal.imp_left fun hnormal => ?_
  have hclosest := hrounds.closest (2 ^ 52)
  rw [Int.cast_pow, Int.cast_ofNat] at hclosest
  rw [abs_of_nonpos (sub_nonpos.2 hnormal)] at hclosest
  have hplace : (2 : ℚ) ^ 52 ≤ place := by linarith [(abs_le.1 hclosest).1]
  exact_mod_cast hplace

/-- The place keeps to 53 bits exactly if the number is below the middle between the last of these
places and the next one, which is even. -/
theorem place_lt_iff (hrounds : Rounds number exponent place) :
    place < 2 ^ 53 ↔ number / 2 ^ exponent < 2 ^ 53 - 1 / 2 := by
  have hbelow := hrounds.below
  have htop := hrounds.closest (2 ^ 53)
  have htie := hrounds.tie (2 ^ 53)
  have hlast := hrounds.closest (2 ^ 53 - 1)
  simp only [Int.cast_sub, Int.cast_pow, Int.cast_ofNat, Int.cast_one] at htop htie hlast
  generalize number / 2 ^ exponent = scaled at *
  rw [abs_of_pos (sub_pos.2 hbelow)] at htop htie
  constructor
  · intro hless
    by_contra hhigh
    have hplace : (place : ℚ) ≤ 2 ^ 53 - 1 := by
      have hnext : (place : ℚ) + 1 ≤ 2 ^ 53 := by exact_mod_cast hless
      linarith
    have hfar : |place - scaled| = scaled - place := by
      rw [abs_of_nonpos (by linarith)]
      ring
    rcases htie (by linarith) with hsame | ⟨-, hodd⟩
    · omega
    · exact absurd hodd (by decide)
  · intro hless
    by_contra hhigh
    have hplace : (2 : ℚ) ^ 53 ≤ place := by exact_mod_cast not_lt.1 hhigh
    rw [abs_of_pos (by linarith)] at hlast
    rcases abs_cases ((2 : ℚ) ^ 53 - 1 - scaled) with ⟨heq, -⟩ | ⟨heq, -⟩ <;> linarith

/-- The place is in the range of magnitudes exactly if the number is. -/
theorem exists_iff (hrounds : Rounds number exponent place) :
    (∃ magnitude, Magnitude.ofScaled? place exponent = some magnitude) ↔
      number < overflowBound := by
  have hscale : (0 : ℚ) < 2 ^ exponent := by positivity
  have hscaled : number = number / 2 ^ exponent * 2 ^ exponent :=
    (div_mul_cancel₀ number hscale.ne').symm
  have hbound : overflowBound = (2 ^ 53 - 1 / 2) * 2 ^ (971 : ℤ) := by
    rw [overflowBound, show (971 : ℤ) = 1 + (970 : ℕ) by rfl, zpow_add₀ two_ne_zero, zpow_natCast,
      ← mul_assoc]
    congr 1
    norm_num
  have hlow : (2 : ℚ) ^ 53 * 2 ^ (970 : ℤ) ≤ overflowBound :=
    mul_le_mul_of_nonneg_right (by norm_num) (by positivity)
  have hhigh : overflowBound < 2 ^ (1024 : ℤ) := by
    rw [show (1024 : ℤ) = 54 + (970 : ℕ) by rfl, zpow_add₀ two_ne_zero, zpow_natCast]
    exact mul_lt_mul_of_pos_right (by norm_num) (by positivity)
  constructor
  · rintro ⟨magnitude, hsome⟩
    obtain ⟨-, -, hexponent, htop⟩ := Magnitude.toRat_of_ofScaled? hsome
    rw [hscaled]
    rcases hexponent.eq_or_lt with rfl | hless
    · rw [hbound]
      exact mul_lt_mul_of_pos_right (hrounds.place_lt_iff.1 (htop rfl)) hscale
    · calc number / 2 ^ exponent * 2 ^ exponent
          < 2 ^ 53 * 2 ^ exponent := mul_lt_mul_of_pos_right hrounds.below hscale
        _ ≤ 2 ^ 53 * 2 ^ (970 : ℤ) :=
          mul_le_mul_of_nonneg_left (zpow_le_zpow_right₀ (by norm_num) (by omega)) (by norm_num)
        _ ≤ overflowBound := hlow
  · intro hless
    rcases hrounds.normal with hnormal | hleast
    · have hexponent : exponent ≤ 971 := by
        have hpower : (2 : ℚ) ^ (52 + exponent) < 2 ^ (1024 : ℤ) := by
          rw [zpow_add₀ two_ne_zero]
          calc (2 : ℚ) ^ (52 : ℤ) * 2 ^ exponent
              ≤ number / 2 ^ exponent * 2 ^ exponent :=
                mul_le_mul_of_nonneg_right (by exact_mod_cast hnormal) hscale.le
            _ < overflowBound := hscaled ▸ hless
            _ < 2 ^ (1024 : ℤ) := hhigh
        have := (zpow_lt_zpow_iff_right₀ (by norm_num : (1 : ℚ) < 2)).1 hpower
        omega
      rcases hexponent.eq_or_lt with rfl | hmore
      · rw [hscaled, hbound] at hless
        have hplace := hrounds.place_lt_iff.2 (lt_of_mul_lt_mul_right hless hscale.le)
        refine ⟨⟨place, 971, hplace, by omega, le_rfl, hrounds.le_place⟩, ?_⟩
        exact dif_pos _
      · refine exists_ofScaled?_eq_some hrounds.place_le ?_ (by omega) hrounds.le_place
        rw [hrounds.exponent_eq]
        exact le_max_left _ _
    · exact exists_ofScaled?_eq_some hrounds.place_le hleast.ge (by omega) hrounds.le_place

/-- What the place stands for is the nearest magnitude. -/
theorem isNearest (hrounds : Rounds number exponent place) {magnitude : Magnitude}
    (hscaled : Magnitude.ofScaled? place exponent = some magnitude) :
    magnitude.IsNearest number := by
  have hscale : (0 : ℚ) < 2 ^ exponent := by positivity
  obtain ⟨hvalue, heven, -⟩ := Magnitude.toRat_of_ofScaled? hscaled
  have hplace : magnitude.toRat / 2 ^ exponent = place := by
    rw [hvalue, mul_div_cancel_right₀ _ hscale.ne']
  constructor
  case inRange => exact hrounds.exists_iff.1 ⟨magnitude, hscaled⟩
  case closest =>
    intro other
    rw [magnitude.abs_toRat_sub_eq number exponent, other.abs_toRat_sub_eq number exponent, hplace]
    exact mul_le_mul_of_nonneg_right (hrounds.closest_toRat other).1 hscale.le
  case even =>
    intro other hequal hother
    rw [magnitude.abs_toRat_sub_eq number exponent, other.abs_toRat_sub_eq number exponent, hplace,
      mul_left_inj' hscale.ne'] at hequal
    rcases (hrounds.closest_toRat other).2 hequal with hsame | ⟨hparity, -⟩
    · rw [← hplace, div_left_inj' hscale.ne'] at hsame
      exact absurd (Magnitude.toRat_injective hsame) hother
    · exact heven hparity

/-- No other magnitude is nearest to the number. -/
theorem eq_of_isNearest (hrounds : Rounds number exponent place) {magnitude nearest : Magnitude}
    (hscaled : Magnitude.ofScaled? place exponent = some magnitude)
    (hnearest : nearest.IsNearest number) : nearest = magnitude := by
  have hscale : (0 : ℚ) < 2 ^ exponent := by positivity
  by_contra hother
  obtain ⟨hvalue, -⟩ := Magnitude.toRat_of_ofScaled? hscaled
  have hplace : magnitude.toRat / 2 ^ exponent = place := by
    rw [hvalue, mul_div_cancel_right₀ _ hscale.ne']
  have hequal : |nearest.toRat - number| = |magnitude.toRat - number| :=
    le_antisymm (hnearest.closest magnitude) ((hrounds.isNearest hscaled).closest nearest)
  have heven := hnearest.even magnitude hequal.symm (Ne.symm hother)
  rw [magnitude.abs_toRat_sub_eq number exponent, nearest.abs_toRat_sub_eq number exponent, hplace,
    mul_left_inj' hscale.ne'] at hequal
  rcases (hrounds.closest_toRat nearest).2 hequal with hsame | ⟨-, hodd⟩
  · rw [← hplace, div_left_inj' hscale.ne'] at hsame
    exact hother (Magnitude.toRat_injective hsame)
  · omega

end Rounds

namespace Magnitude

theorem isNearest_zero_iff {magnitude : Magnitude} : magnitude.IsNearest 0 ↔ magnitude = zero := by
  have hzero : zero.toRat = 0 := by simp [toRat, zero]
  constructor
  · intro hnearest
    have hclosest := hnearest.closest zero
    rw [hzero, sub_zero, sub_zero, abs_zero, abs_nonpos_iff, ← hzero] at hclosest
    exact toRat_injective hclosest
  · rintro rfl
    refine ⟨mul_pos (by norm_num) (by positivity), fun other => ?_, fun _ _ _ => rfl⟩
    rw [hzero, sub_zero, abs_zero]
    exact abs_nonneg _

/-- A fraction is rounded to the magnitude nearest to it, if there is one. -/
theorem ofFraction?_eq_some_iff (numerator : Nat) {denominator : Nat} (hden : 0 < denominator)
    {magnitude : Magnitude} :
    ofFraction? numerator denominator = some magnitude ↔
      magnitude.IsNearest ((numerator : ℚ) / denominator) := by
  rcases Nat.eq_zero_or_pos numerator with rfl | hnum
  · rw [Nat.cast_zero, zero_div, isNearest_zero_iff, ofFraction?, if_pos (Or.inl rfl),
      Option.some.injEq, eq_comm]
  · obtain ⟨exponent, place, hfraction, hrounds⟩ := exists_rounds hnum hden
    rw [hfraction]
    constructor
    · exact hrounds.isNearest
    · intro hnearest
      obtain ⟨found, hfound⟩ := hrounds.exists_iff.2 hnearest.inRange
      rw [hfound, hrounds.eq_of_isNearest hfound hnearest]

/-- There is a nearest magnitude below the bound and nowhere else. -/
theorem ofFraction?_eq_none_iff (numerator : Nat) {denominator : Nat} (hden : 0 < denominator) :
    ofFraction? numerator denominator = none ↔
      overflowBound ≤ (numerator : ℚ) / denominator := by
  rw [← not_iff_not, ← ne_eq, Option.ne_none_iff_exists', not_le]
  constructor
  · rintro ⟨magnitude, hsome⟩
    exact ((ofFraction?_eq_some_iff numerator hden).1 hsome).inRange
  · intro hless
    rcases Nat.eq_zero_or_pos numerator with rfl | hnum
    · exact ⟨zero, if_pos (Or.inl rfl)⟩
    · obtain ⟨exponent, place, hfraction, hrounds⟩ := exists_rounds hnum hden
      rw [hfraction]
      exact hrounds.exists_iff.2 hless

/-- A number has one nearest magnitude at most. -/
theorem IsNearest.unique {magnitude other : Magnitude} {number : ℚ} (hnonneg : 0 ≤ number)
    (hnearest : magnitude.IsNearest number) (hother : other.IsNearest number) :
    magnitude = other := by
  have hfraction : ((number.num.toNat : ℕ) : ℚ) / number.den = number := by
    have hnum : ((number.num.toNat : ℕ) : ℤ) = number.num :=
      Int.toNat_of_nonneg (Rat.num_nonneg.2 hnonneg)
    rw [← Int.cast_natCast, hnum, Rat.num_div_den]
  rw [← hfraction, ← ofFraction?_eq_some_iff _ number.den_pos] at hnearest hother
  exact Option.some.inj (hnearest.symm.trans hother)

/-- Numbers below half of the least positive magnitude are rounded to zero. -/
theorem isNearest_zero_of_lt {number : ℚ} (hnonneg : 0 ≤ number)
    (hsmall : number < 2 ^ (-1075 : ℤ)) : zero.IsNearest number := by
  have hzero : zero.toRat = 0 := by simp [toRat, zero]
  have hrange : number < overflowBound := by
    refine hsmall.trans_le ((zpow_le_one_of_nonpos₀ (by norm_num) (by norm_num)).trans ?_)
    exact one_le_mul_of_one_le_of_one_le (by norm_num) (one_le_pow₀ (by norm_num))
  refine ⟨hrange, fun other => ?_, fun _ _ _ => rfl⟩
  rw [hzero, zero_sub, abs_neg, abs_of_nonneg hnonneg]
  rcases Nat.eq_zero_or_pos other.significand with hnone | hpos
  · rw [eq_zero_of_significand_eq_zero hnone, hzero, zero_sub, abs_neg, abs_of_nonneg hnonneg]
  · have hleast : (2 : ℚ) * 2 ^ (-1075 : ℤ) ≤ other.toRat := by
      have hsignificand : (1 : ℚ) ≤ other.significand := by exact_mod_cast hpos
      calc (2 : ℚ) * 2 ^ (-1075 : ℤ) = 2 ^ (-1074 : ℤ) := (zpow_one_add₀ two_ne_zero _).symm
        _ ≤ 2 ^ other.exponent := zpow_le_zpow_right₀ (by norm_num) other.canonical.2.1
        _ ≤ other.toRat := le_mul_of_one_le_left (by positivity) hsignificand
    rw [abs_of_nonneg (by linarith)]
    linarith

theorem two_pow_1075_lt : (2 : Nat) ^ 1075 < 10 ^ 324 := by decide +kernel

/-- A decimal is rounded to the magnitude nearest to it, if there is one. -/
theorem ofDecimal?_eq_some_iff (decimal : Decimal) {magnitude : Magnitude} :
    ofDecimal? decimal = some magnitude ↔ magnitude.IsNearest decimal.toRat := by
  have hnonneg : 0 ≤ decimal.toRat := by
    rw [Decimal.toRat]
    positivity
  rcases Nat.eq_zero_or_pos decimal.coefficient with hnone | hpos
  · have hzero : decimal.toRat = 0 := by simp [Decimal.toRat, hnone]
    rw [ofDecimal?, if_pos hnone, hzero, isNearest_zero_iff, Option.some.injEq, eq_comm]
  · unfold ofDecimal?
    rw [if_neg hpos.ne']
    simp only
    split_ifs with hgreat hsmall
    · have hlow : (10 : ℚ) * 10 ^ (309 : ℤ) ≤ 10 * decimal.toRat := by
        rw [← zpow_one_add₀ (by norm_num)]
        exact (zpow_le_zpow_right₀ (by norm_num) (by omega)).trans (Decimal.pow_le_toRat hpos)
      have hbound : overflowBound ≤ 10 ^ (309 : ℤ) := by
        calc overflowBound ≤ 2 ^ 54 * 2 ^ 970 :=
              mul_le_mul_of_nonneg_right (by norm_num) (by positivity)
          _ = 2 ^ 1024 := (pow_add 2 54 970).symm
          _ ≤ 10 ^ (309 : ℤ) := by exact_mod_cast two_pow_1024_lt.le
      refine iff_of_false (by simp) fun hnearest => ?_
      linarith [hnearest.inRange]
    · have hless : decimal.toRat < 2 ^ (-1075 : ℤ) := by
        calc decimal.toRat < 10 ^ (decimal.exponent + Decimal.places decimal.coefficient) :=
              Decimal.toRat_lt_pow decimal
          _ ≤ 10 ^ (-324 : ℤ) := zpow_le_zpow_right₀ (by norm_num) (by omega)
          _ < 2 ^ (-1075 : ℤ) := by
              rw [zpow_neg, zpow_neg, inv_lt_inv₀ (by positivity) (by positivity)]
              exact_mod_cast two_pow_1075_lt
      have hzero := isNearest_zero_of_lt hnonneg hless
      rw [Option.some.injEq]
      exact ⟨fun hsame => hsame ▸ hzero, fun hnearest => hzero.unique hnonneg hnearest⟩
    · have hden : 0 < decimal.fraction.2 := Nat.pow_pos (by decide)
      rw [ofFraction?_eq_some_iff _ hden, decimal_fraction_eq]

/-- Decimals of one value are rounded alike. -/
theorem ofDecimal?_congr {decimal other : Decimal} (hvalue : decimal.toRat = other.toRat) :
    ofDecimal? decimal = ofDecimal? other := by
  ext magnitude
  rw [ofDecimal?_eq_some_iff, ofDecimal?_eq_some_iff, hvalue]

end Magnitude

end MetricBridge.Binary64
