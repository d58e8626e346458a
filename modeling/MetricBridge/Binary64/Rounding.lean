/-
# Rounding to the nearest double

Every conversion into a double goes through one function on fractions of natural
numbers: it finds the power of two that leaves 53 bits, divides, and rounds the
quotient to the nearest whole number, a tie to the even one. Decimals are such
fractions; a decimal whose order of magnitude alone decides the result is never
expanded, so an exponent of twelve digits costs nothing.
-/

import MetricBridge.Binary64.Basic
import MetricBridge.Decimal.Digits

namespace MetricBridge

/-- The decimal `coefficient * 10 ^ exponent`. -/
structure Decimal where
  coefficient : Nat
  exponent : Int
  deriving DecidableEq

namespace Decimal

/-- The decimal as a fraction. -/
def fraction (decimal : Decimal) : Nat × Nat :=
  (decimal.coefficient * Nat.pow 10 decimal.exponent.toNat, Nat.pow 10 (-decimal.exponent).toNat)

end Decimal

namespace Binary64

/-- The whole number nearest to a fraction; a half goes to the even neighbour. -/
def nearestWhole (numerator denominator : Nat) : Nat :=
  let quotient := numerator / denominator
  let remainder := numerator % denominator
  if 2 * remainder < denominator then quotient
  else if denominator < 2 * remainder then quotient + 1
  else if quotient % 2 = 0 then quotient
  else quotient + 1

/-- The greatest `k` with `2 ^ k` not above a positive fraction. -/
def binaryOrder (numerator denominator : Nat) : Int :=
  let estimate : Int := (Nat.log2 numerator : Int) - Nat.log2 denominator
  if denominator * Nat.pow 2 estimate.toNat ≤ numerator * Nat.pow 2 (-estimate).toNat then estimate
  else estimate - 1

namespace Magnitude

/-- The magnitude with a significand of at most 53 bits, the one with 54 bits that
rounding up can give included; nothing where the exponent is too great. -/
def ofScaled? (significand : Nat) (exponent : Int) : Option Magnitude :=
  if canonical : IsCanonical significand exponent then some ⟨significand, exponent, canonical⟩
  else if canonical :
      significand = Nat.pow 2 53 ∧ IsCanonical (Nat.pow 2 52) (exponent + 1) then
    some ⟨Nat.pow 2 52, exponent + 1, canonical.2⟩
  else none

/-- The magnitude nearest to a fraction, a tie to the even significand; nothing where
the fraction is too great for a finite one. -/
def ofFraction? (numerator denominator : Nat) : Option Magnitude :=
  if numerator = 0 ∨ denominator = 0 then some zero
  else
    let exponent := max (-1074) (binaryOrder numerator denominator - 52)
    let significand :=
      nearestWhole (numerator * Nat.pow 2 (-exponent).toNat)
        (denominator * Nat.pow 2 exponent.toNat)
    ofScaled? significand exponent

/-- The magnitude nearest to a decimal. At `10 ^ 309` and above there is none, and below
`10 ^ (-324)` it is zero. -/
def ofDecimal? (decimal : Decimal) : Option Magnitude :=
  if decimal.coefficient = 0 then some zero
  else
    let order := decimal.exponent + Decimal.places decimal.coefficient
    if 309 < order then none
    else if order < -323 then some zero
    else ofFraction? decimal.fraction.1 decimal.fraction.2

end Magnitude

/-- The signed magnitude nearest to a decimal, or the infinity of that sign. -/
def ofDecimal (negative : Bool) (decimal : Decimal) : Binary64 :=
  match Magnitude.ofDecimal? decimal with
  | some magnitude => finite negative magnitude
  | none => infinite negative

/-- The double nearest to an integer. -/
def ofInt (n : Int) : Binary64 :=
  ofDecimal (decide (n < 0)) ⟨n.natAbs, 0⟩

end Binary64

end MetricBridge
