/-
# Instants are linearly ordered

The order on instants compares seconds first and nanoseconds then, so it is linear, leap
seconds included. Whole seconds compare with any instant by their second alone, which
is why windows of arbitrary instants and windows of seconds hold the same samples.
-/

import Mathlib
import MetricBridge.Time.Instant

namespace MetricBridge.Time.Instant

/-- An instant is its second and its nanoseconds. -/
theorem eq_of_parts {a b : Instant} (hsecond : a.second = b.second) (hnano : a.nano = b.nano) :
    a = b := by
  obtain ⟨_, _, _, _⟩ := a
  obtain ⟨_, _, _, _⟩ := b
  simp only at hsecond hnano
  subst hsecond hnano
  rfl

instance : LinearOrder Instant where
  le_refl a := Or.inr ⟨rfl, Nat.le_refl _⟩
  le_trans a b c hab hbc := by
    rw [le_iff] at *
    omega
  lt_iff_le_not_ge a b := by
    rw [lt_iff, le_iff, le_iff]
    omega
  le_antisymm a b hab hba := by
    rw [le_iff] at hab hba
    exact eq_of_parts (by omega) (by omega)
  le_total a b := by
    rw [le_iff, le_iff]
    omega
  toMax := inferInstance
  toDecidableLE := inferInstance
  toDecidableLT := inferInstance
  toDecidableEq := inferInstance

/-- The first nanosecond of the second in which an instant lies. A leap second lies in the second
whose number it shares. -/
def wholeSecond (instant : Instant) : Instant where
  second := instant.second
  nano := 0
  inRange := instant.inRange
  subsecond := Or.inl (by decide)

@[simp]
theorem second_wholeSecond (instant : Instant) : instant.wholeSecond.second = instant.second :=
  rfl

@[simp]
theorem nano_wholeSecond (instant : Instant) : instant.wholeSecond.nano = 0 :=
  rfl

theorem ofSecond?_eq_wholeSecond (instant : Instant) :
    ofSecond? instant.second = some instant.wholeSecond :=
  ofParts?_eq_some_iff.2 ⟨rfl, rfl⟩

/-- A whole second comes after an instant exactly if its second does. -/
theorem lt_of_nano_eq_zero {a b : Instant} (hwhole : b.nano = 0) :
    a < b ↔ a.second < b.second := by
  rw [lt_iff]
  omega

/-- A whole second comes no later than an instant exactly if its second does. -/
theorem le_of_nano_eq_zero {a b : Instant} (hwhole : a.nano = 0) :
    a ≤ b ↔ a.second ≤ b.second := by
  rw [le_iff]
  omega

theorem natAbs_second_lt (instant : Instant) : instant.second.natAbs < 2 ^ 53 := by
  have hrange := instant.inRange
  simp only [firstSecond, lastSecond] at hrange
  omega

end MetricBridge.Time.Instant
