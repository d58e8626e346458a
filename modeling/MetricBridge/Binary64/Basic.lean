/-
# Double-precision numbers

Sample values and timestamps are IEEE 754 doubles. This library never calculates
with them: it reads them from decimal text, writes them as decimal text, compares
timestamps after rounding them to whole seconds, and keeps everything else bit for
bit. So a double is described by what it denotes (a sign, a significand and a
power of two, or one of the values that are not finite) and every statement about
one is a statement about natural numbers and integers.

The significand and exponent of a finite double are canonical by construction, which
makes equality of doubles equality of what they denote, the two zeros apart. All
NaNs are one.
-/

namespace MetricBridge

namespace Binary64

/-- The significand has 53 bits with the leading one set, unless the exponent is the
least one; the exponent stays within the format's range. -/
def IsCanonical (significand : Nat) (exponent : Int) : Prop :=
  significand < Nat.pow 2 53 ∧ -1074 ≤ exponent ∧ exponent ≤ 971 ∧
    (Nat.pow 2 52 ≤ significand ∨ exponent = -1074)

instance (significand : Nat) (exponent : Int) : Decidable (IsCanonical significand exponent) :=
  inferInstanceAs (Decidable (_ ∧ _ ∧ _ ∧ _))

/-- The absolute value of a finite double: `significand * 2 ^ exponent`. -/
structure Magnitude where
  significand : Nat
  exponent : Int
  canonical : IsCanonical significand exponent
  deriving DecidableEq

namespace Magnitude

/-- The magnitude of the two zeros. -/
def zero : Magnitude :=
  ⟨0, -1074, by decide⟩

instance : Inhabited Magnitude := ⟨zero⟩

/-- The magnitude as a fraction: numerator and denominator of `significand * 2 ^ exponent`. -/
def fraction (magnitude : Magnitude) : Nat × Nat :=
  (magnitude.significand * Nat.pow 2 magnitude.exponent.toNat,
    Nat.pow 2 (-magnitude.exponent).toNat)

/-- The greatest whole number not above the magnitude. -/
def floor (magnitude : Magnitude) : Nat :=
  magnitude.fraction.1 / magnitude.fraction.2

end Magnitude

end Binary64

/-- A double: not a number, an infinity, or a signed magnitude. -/
inductive Binary64 where
  | nan
  | infinite (negative : Bool)
  | finite (negative : Bool) (magnitude : Binary64.Magnitude)
  deriving DecidableEq

namespace Binary64

instance : Inhabited Binary64 := ⟨finite false Magnitude.zero⟩

/-- Neither infinite nor NaN. -/
def isFinite : Binary64 → Bool
  | finite .. => true
  | _ => false

/-- A finite double without its fraction, as an integer: rounding goes toward zero. -/
def wholePart? : Binary64 → Option Int
  | finite negative magnitude =>
    some (if negative then -(magnitude.floor : Int) else magnitude.floor)
  | _ => none

/-- The 64 bits of the interchange format, as a number. NaN is the quiet one without a
payload. -/
def toBits : Binary64 → Nat
  | nan => 0x7FF8000000000000
  | infinite negative => negative.toNat * Nat.pow 2 63 + 0x7FF0000000000000
  | finite negative magnitude =>
    negative.toNat * Nat.pow 2 63 +
      if magnitude.significand < Nat.pow 2 52 then magnitude.significand
      else
        (magnitude.exponent + 1075).toNat * Nat.pow 2 52 +
          (magnitude.significand - Nat.pow 2 52)

end Binary64

end MetricBridge
