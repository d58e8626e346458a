/-
# Numbers that are read are finite

A number without a point and an exponent is kept as it is while it has at most 64 bits. Every
other one becomes a double, and if it is too great for a finite one the number is not read. So
what is read has a double that is finite, whichever of the two it is.
-/

import Mathlib
import MetricBridge.Json.Token
import MetricBridge.Proofs.Binary64.Whole

namespace MetricBridge.Json

open Text (Shorter)

/-- At most 64 bits if it is whole, and finite otherwise. -/
def Number.IsProper : Number → Prop
  | .whole n => n.natAbs < 2 ^ 64
  | .real value => value.isFinite = true

theorem Number.isFinite_toBinary64 {number : Number} (hproper : number.IsProper) :
    number.toBinary64.isFinite = true := by
  cases number with
  | whole n => exact Binary64.isFinite_ofInt hproper
  | real value => exact hproper

section

variable {negative : Bool} {leading : Decimal} {digits rest : List Char}
  {exponent : Option (Bool × List Char)} {number : Number}

theorem isFinite_of_realNumber {value : Binary64}
    (hread : realNumber negative leading exponent rest = .ok value) :
    value.isFinite = true := by
  unfold realNumber at hread
  simp only at hread
  split at hread
  · split_ifs at hread
    cases hread
    rfl
  · split at hread
    · cases hread
      rfl
    · cases hread

theorem isProper_of_map_realNumber
    (hread : (realNumber negative leading exponent rest).map Number.real = .ok number) :
    number.IsProper := by
  cases hvalue : realNumber negative leading exponent rest with
  | error flaw =>
    rw [hvalue] at hread
    cases hread
  | ok value =>
    rw [hvalue] at hread
    cases hread
    exact isFinite_of_realNumber hvalue

theorem isProper_of_wholeNumber (hread : wholeNumber negative digits rest = .ok number) :
    number.IsProper := by
  unfold wholeNumber at hread
  simp only [Nat.pow_eq] at hread
  split_ifs at hread with hnegative hbound hbound
  · cases hread
    show (-(Decimal.value digits : Int)).natAbs < 2 ^ 64
    omega
  · exact isProper_of_map_realNumber hread
  · cases hread
    show (Decimal.value digits : Int).natAbs < 2 ^ 64
    omega
  · exact isProper_of_map_realNumber hread

end

/-- A step that follows another one gives something only if the other one did. -/
theorem exists_of_bind_eq_ok {ε α β : Type} {first : Except ε α} {next : α → Except ε β}
    {result : β} (hbind : (first >>= next) = .ok result) :
    ∃ value, first = .ok value ∧ next value = .ok result := by
  cases first with
  | error error => cases hbind
  | ok value => exact ⟨value, rfl, hbind⟩

theorem isProper_of_unsignedNumber {negative : Bool} {text : List Char} {number : Number}
    {rest : Shorter text} (hread : unsignedNumber negative text = .ok (number, rest)) :
    number.IsProper := by
  unfold unsignedNumber at hread
  obtain ⟨⟨digits, afterWhole⟩, -, hread⟩ := exists_of_bind_eq_ok hread
  obtain ⟨fraction, -, hread⟩ := exists_of_bind_eq_ok hread
  cases fraction with
  | none =>
    obtain ⟨exponent, -, hread⟩ := exists_of_bind_eq_ok hread
    cases exponent with
    | none =>
      obtain ⟨whole, hwhole, hread⟩ := exists_of_bind_eq_ok hread
      cases hread
      exact isProper_of_wholeNumber hwhole
    | some exponent =>
      obtain ⟨value, hvalue, hread⟩ := exists_of_bind_eq_ok hread
      cases hread
      exact isFinite_of_realNumber hvalue
  | some fraction =>
    obtain ⟨exponent, -, hread⟩ := exists_of_bind_eq_ok hread
    cases exponent with
    | none =>
      obtain ⟨value, hvalue, hread⟩ := exists_of_bind_eq_ok hread
      cases hread
      exact isFinite_of_realNumber hvalue
    | some exponent =>
      obtain ⟨value, hvalue, hread⟩ := exists_of_bind_eq_ok hread
      cases hread
      exact isFinite_of_realNumber hvalue

/-- What is read as a number is proper. -/
theorem isProper_of_number {text : List Char} {result : Number} {rest : Shorter text}
    (hread : number text = .ok (result, rest)) : result.IsProper := by
  unfold number at hread
  split at hread
  · obtain ⟨⟨value, after⟩, hvalue, hread⟩ := exists_of_bind_eq_ok hread
    cases hread
    exact isProper_of_unsignedNumber hvalue
  · exact isProper_of_unsignedNumber hread

end MetricBridge.Json
