/-
# Numerals below a bound are read as their value

A numeral is one digit or more, with a plus sign in front or without one, and zeros in front do no
harm. It is read digit by digit, and since no part of it is greater than the whole, a numeral whose
value is below the bound is never too great on the way.
-/

import Mathlib
import MetricBridge.Decimal.Bounded
import MetricBridge.Proofs.Decimal.Numerals

namespace MetricBridge.Decimal

/-- A numeral of a natural number. -/
def IsNumeral (n : Nat) (text : List Char) : Prop :=
  ∃ sign ∈ [[], ['+']], ∃ digits, IsDigits digits ∧ value digits = n ∧ text = sign ++ digits

variable {bound n : Nat} {text : List Char}

theorem le_valueFrom (start : Nat) (text : List Char) : start ≤ valueFrom start text := by
  induction text generalizing start with
  | nil => exact le_rfl
  | cons c text ih =>
    calc start ≤ 10 * start + digitValue c := by omega
      _ ≤ valueFrom start (c :: text) := ih _

theorem boundedFrom_eq_ok {start : Nat} (hdigits : ∀ c ∈ text, c.isDigit = true)
    (hbound : valueFrom start text < bound) :
    boundedFrom bound start text = .ok (valueFrom start text) := by
  induction text generalizing start with
  | nil => rfl
  | cons c text ih =>
    obtain ⟨hc, hdigits⟩ := List.forall_mem_cons.1 hdigits
    have hfirst : 10 * start + digitValue c < bound := lt_of_le_of_lt (le_valueFrom _ text) hbound
    rw [boundedFrom, if_pos hc]
    simp only [if_pos hfirst]
    exact ih hdigits hbound

theorem bounded_of_ne_plus (hsome : text ≠ []) (hplus : ∀ c ∈ text.head?, c ≠ '+') :
    bounded bound text = boundedFrom bound 0 text := by
  unfold bounded
  split
  next => exact absurd rfl hsome
  next => exact absurd rfl (hplus '+' rfl)
  next => exact absurd rfl (hplus '+' rfl)
  next => rfl

/-- A numeral below the bound is read as its value. -/
theorem bounded_eq_ok (htext : IsNumeral n text) (hbound : n < bound) :
    bounded bound text = .ok n := by
  obtain ⟨sign, hsign, digits, hdigits, rfl, rfl⟩ := htext
  have hread := boundedFrom_eq_ok hdigits.2 hbound
  simp only [List.mem_cons, List.not_mem_nil, or_false] at hsign
  rcases hsign with rfl | rfl
  · have hplus : ∀ c ∈ digits.head?, c ≠ '+' := by
      obtain ⟨c, others, rfl, hc, -⟩ := hdigits.exists_cons
      rintro _ ⟨⟩ rfl
      cases hc
    exact (bounded_of_ne_plus hdigits.1 hplus).trans hread
  · obtain ⟨c, others, rfl, -⟩ := hdigits.exists_cons
    exact hread

theorem of_boundedFrom_eq_ok {start : Nat} (hstart : start < bound)
    (hread : boundedFrom bound start text = .ok n) :
    (∀ c ∈ text, c.isDigit = true) ∧ valueFrom start text = n ∧ n < bound := by
  induction text generalizing start with
  | nil =>
    cases hread
    exact ⟨by simp, rfl, hstart⟩
  | cons c text ih =>
    rw [boundedFrom] at hread
    simp only at hread
    split_ifs at hread with hc hnext
    obtain ⟨hdigits, hvalue, hbound⟩ := ih hnext hread
    exact ⟨List.forall_mem_cons.2 ⟨hc, hdigits⟩, hvalue, hbound⟩

/-- Numerals of the numbers below the bound are read, and nothing else is. -/
theorem bounded_eq_ok_iff (hbound : 0 < bound) :
    bounded bound text = .ok n ↔ IsNumeral n text ∧ n < bound := by
  refine ⟨fun hread => ?_, fun ⟨htext, hn⟩ => bounded_eq_ok htext hn⟩
  unfold bounded at hread
  split at hread
  next => cases hread
  next => cases hread
  next rest hsome =>
    obtain ⟨hdigits, hvalue, hn⟩ := of_boundedFrom_eq_ok hbound hread
    refine ⟨⟨['+'], by simp, rest, ⟨?_, hdigits⟩, hvalue, rfl⟩, hn⟩
    rintro rfl
    exact hsome rfl
  next hsome _ _ =>
    obtain ⟨hdigits, hvalue, hn⟩ := of_boundedFrom_eq_ok hbound hread
    exact ⟨⟨[], by simp, text, ⟨hsome, hdigits⟩, hvalue, rfl⟩, hn⟩

/-- Every number has a numeral. -/
theorem isNumeral_digits (n : Nat) : IsNumeral n (digits n) :=
  ⟨[], by simp, digits n, isDigits_digits n, value_digits n, rfl⟩

end MetricBridge.Decimal
