/-
# Decimals rounded in steps

A decimal need not be rounded at once. Its coefficient can be rounded to a magnitude, and the power
of ten to another, and these be multiplied or divided, with a rounding of its own. This takes
doubles only, and what it comes to is close to the decimal, but not always nearest to it.

Powers of ten are magnitudes up to the exponent 308. A greater one is too great to multiply by,
unless nothing is multiplied; it is divided by in several steps, as far as anything is left to
divide.
-/

import MetricBridge.Binary64.Rounding

namespace MetricBridge.Binary64.Magnitude

/-- The product of two magnitudes, rounded; nothing where it is too great. -/
def times? (magnitude factor : Magnitude) : Option Magnitude :=
  ofFraction? (magnitude.fraction.1 * factor.fraction.1) (magnitude.fraction.2 * factor.fraction.2)

/-- The quotient of two magnitudes, rounded; nothing where it is too great. -/
def over? (magnitude divisor : Magnitude) : Option Magnitude :=
  ofFraction? (magnitude.fraction.1 * divisor.fraction.2)
    (magnitude.fraction.2 * divisor.fraction.1)

/-- The exponent of the greatest power of ten that is rounded to a magnitude. -/
def greatestPower : Nat := 308

/-- The magnitude nearest to a power of ten. -/
def tenTo? (power : Nat) : Option Magnitude :=
  ofFraction? (Nat.pow 10 power) 1

/-- The magnitude multiplied by a power of ten. -/
def raised? (magnitude : Magnitude) (power : Nat) : Option Magnitude :=
  if power ≤ greatestPower then (tenTo? power).bind magnitude.times?
  else if magnitude.significand = 0 then some magnitude
  else none

/-- The magnitude divided by a power of ten. -/
def lowered? (magnitude : Magnitude) (power : Nat) : Option Magnitude :=
  if power ≤ greatestPower then (tenTo? power).bind magnitude.over?
  else if magnitude.significand = 0 then some magnitude
  else
    ((tenTo? greatestPower).bind magnitude.over?).bind fun quotient =>
      lowered? quotient (power - greatestPower)
termination_by power
decreasing_by
  have : greatestPower = 308 := rfl
  omega

/-- A decimal rounded in steps; nothing where it is too great. -/
def ofScaledDecimal? (decimal : Decimal) : Option Magnitude :=
  (ofFraction? decimal.coefficient 1).bind fun magnitude =>
    if 0 ≤ decimal.exponent then magnitude.raised? decimal.exponent.toNat
    else magnitude.lowered? (-decimal.exponent).toNat

end MetricBridge.Binary64.Magnitude
