/-
# Numerals read back

The digits of a number are read as that number, with or without a minus sign, and zeros at
either end of a numeral do what they do on paper. The number of its digits says between
which powers of ten a number lies, which is how the reader of decimals tells at once that one is
too great or too small for a double.
-/

import Mathlib
import MetricBridge.Decimal.Digits
import MetricBridge.Text.Blank

namespace MetricBridge.Decimal

/-- One digit or more. -/
def IsDigits (digits : List Char) : Prop :=
  digits ≠ [] ∧ ∀ c ∈ digits, c.isDigit = true

instance (digits : List Char) : Decidable (IsDigits digits) :=
  have := List.decidableBAll (fun c => c.isDigit = true) digits
  instDecidableAnd

theorem IsDigits.exists_cons {digits : List Char} (hdigits : IsDigits digits) :
    ∃ c others, digits = c :: others ∧ c.isDigit = true ∧ ∀ c ∈ others, c.isDigit = true := by
  obtain ⟨hne, hall⟩ := hdigits
  obtain ⟨c, others, rfl⟩ := List.exists_cons_of_ne_nil hne
  exact ⟨c, others, rfl, List.forall_mem_cons.1 hall⟩

/-- Horner's rule on characters is the library's. -/
theorem valueFrom_eq_ofDigitChars (start : Nat) (text : List Char) :
    valueFrom start text = Nat.ofDigitChars 10 text start := by
  simp only [valueFrom, digitValue, Nat.ofDigitChars_eq_foldl]

theorem value_digits (n : Nat) : value (digits n) = n := by
  rw [value, valueFrom_eq_ofDigitChars]
  exact Nat.ofDigitChars_ten_toDigits

theorem digits_ne_nil (n : Nat) : digits n ≠ [] :=
  Nat.toDigits_ne_nil

theorem isDigit_of_mem_digits {n : Nat} {c : Char} (hmem : c ∈ digits n) : c.isDigit = true :=
  Nat.isDigit_of_mem_toDigits (by decide) (by decide) hmem

theorem isDigits_digits (n : Nat) : IsDigits (digits n) :=
  ⟨digits_ne_nil n, fun _ => isDigit_of_mem_digits⟩

/-- The digits of a number begin with a zero only if it is zero. -/
theorem eq_zero_of_head_digits {n : Nat} (hhead : (digits n).head? = some '0') : n = 0 := by
  induction n using Nat.strong_induction_on with
  | h n ih =>
    rw [digits] at hhead
    by_cases hsmall : n < 10
    · rw [Nat.toDigits_of_lt_base hsmall] at hhead
      exact Nat.digitChar_eq_zero.1 (Option.some.inj hhead)
    · rw [Nat.toDigits_of_base_le (by decide) (by omega),
        List.head?_append_of_ne_nil _ Nat.toDigits_ne_nil] at hhead
      have htens := ih (n / 10) (by omega) hhead
      omega

/-- Zeros behind a numeral multiply its value. -/
theorem value_append_zeros (text : List Char) (count : Nat) :
    value (text ++ List.replicate count '0') = value text * 10 ^ count := by
  rw [value, valueFrom_append, valueFrom_eq_ofDigitChars, Nat.ofDigitChars_replicate_zero,
    Nat.mul_comm]
  rfl

/-- Zeros in front of a numeral change nothing. -/
theorem value_zeros_append (count : Nat) (text : List Char) :
    value (List.replicate count '0' ++ text) = value text := by
  rw [value, valueFrom_append, valueFrom_eq_ofDigitChars 0, Nat.ofDigitChars_replicate_zero,
    Nat.mul_zero]
  rfl

theorem natural?_digits (n : Nat) : natural? (digits n) = some n := by
  have hall : (digits n).all Char.isDigit = true :=
    List.all_eq_true.2 fun c hmem => isDigit_of_mem_digits hmem
  rw [natural?, if_pos ⟨digits_ne_nil n, hall⟩, value_digits]

theorem integer?_eq_natural? {text : List Char} (hdigits : ∀ c ∈ text, c.isDigit = true) :
    integer? text = (natural? text).map Int.ofNat := by
  unfold integer?
  split
  · simp at hdigits
  · simp at hdigits
  · rfl

/-- The numeral of an integer reads back. -/
theorem integer?_integer (n : Int) : integer? (integer n) = some n := by
  by_cases hneg : n < 0
  · have hback : (-(n.natAbs : Int)) = n := by omega
    rw [integer, if_pos hneg, integer?, natural?_digits]
    exact congrArg some hback
  · rw [integer, if_neg hneg, integer?_eq_natural? fun c => isDigit_of_mem_digits,
      natural?_digits, Option.map_some]
    exact congrArg some (Int.natAbs_of_nonneg (by omega))

/-- A plus sign in front of a numeral without a sign changes nothing. -/
theorem integer?_plus_integer {n : Int} (hnonneg : 0 ≤ n) :
    integer? ('+' :: integer n) = some n := by
  rw [integer, if_neg (by omega), integer?, natural?_digits, Option.map_some]
  exact congrArg some (Int.natAbs_of_nonneg hnonneg)

theorem toNat_bounds_of_isDigit {c : Char} (hdigit : c.isDigit = true) :
    48 ≤ c.toNat ∧ c.toNat ≤ 57 := by
  simpa [Char.isDigit, UInt32.le_iff_toNat_le] using hdigit

/-- Of two numerals one behind the other, the first counts higher by the places of the second. -/
theorem value_append (front back : List Char) :
    value (front ++ back) = value front * 10 ^ back.length + value back := by
  rw [value, valueFrom_append, valueFrom_eq_ofDigitChars, Nat.ofDigitChars_eq_ofDigitChars_zero,
    ← valueFrom_eq_ofDigitChars, Nat.mul_comm]
  rfl

theorem value_lt {text : List Char} (hdigits : ∀ c ∈ text, c.isDigit = true) :
    value text < 10 ^ text.length := by
  induction text with
  | nil => decide
  | cons c rest ih =>
    have hrest := ih fun d hd => hdigits d (List.mem_cons_of_mem _ hd)
    have hbounds := toNat_bounds_of_isDigit (hdigits c List.mem_cons_self)
    have hfirst : value [c] ≤ 9 := by
      have hvalue : value [c] = c.toNat - 48 := by simp [value, valueFrom, digitValue]
      omega
    rw [List.length_cons, ← List.singleton_append, value_append]
    calc value [c] * 10 ^ rest.length + value rest
        < 9 * 10 ^ rest.length + 10 ^ rest.length :=
          Nat.add_lt_add_of_le_of_lt (Nat.mul_le_mul_right _ hfirst) hrest
      _ = 10 ^ (rest.length + 1) := by ring

theorem isDigit_of_mem_padded {width n : Nat} {c : Char} (hmem : c ∈ padded width n) :
    c.isDigit = true := by
  rcases List.mem_append.1 hmem with hzero | hdigit
  · rw [List.eq_of_mem_replicate hzero]
    decide
  · exact isDigit_of_mem_digits hdigit

theorem value_padded (width n : Nat) : value (padded width n) = n := by
  rw [padded, value_zeros_append, value_digits]

theorem length_padded {width n : Nat} (hpos : 0 < width) (hfits : n < 10 ^ width) :
    (padded width n).length = width := by
  have hdigits : (digits n).length ≤ width := Nat.toDigits_length 10 n width hpos hfits
  rw [padded, List.length_append, List.length_replicate]
  omega

/-- Digits have one case. -/
theorem toLower_of_isDigit {c : Char} (hdigit : c.isDigit = true) : c.toLower = c := by
  have hbounds := toNat_bounds_of_isDigit hdigit
  unfold Char.toLower
  rw [dif_neg]
  simp [UInt32.le_iff_toNat_le]
  omega

theorem not_isBlank_of_isDigit {c : Char} (hdigit : c.isDigit = true) :
    Text.isBlank c = false := by
  have hbounds := toNat_bounds_of_isDigit hdigit
  simp only [Text.isBlank, Bool.or_eq_false_iff, Bool.and_eq_false_iff, decide_eq_false_iff_not,
    beq_eq_false_iff_ne]
  omega

theorem not_isBlank_of_mem_integer {n : Int} {c : Char} (hmem : c ∈ integer n) :
    Text.isBlank c = false := by
  have hcases : c = '-' ∨ c ∈ digits n.natAbs := by
    unfold integer at hmem
    split at hmem
    · exact List.mem_cons.1 hmem
    · exact Or.inr hmem
  rcases hcases with rfl | hdigit
  · decide
  · exact not_isBlank_of_isDigit (isDigit_of_mem_digits hdigit)

/-- Digits are taken as far as they go. -/
theorem spanDigits_append_of_not_digit {text rest : List Char}
    (hdigits : ∀ c ∈ text, c.isDigit = true) (hrest : ∀ c ∈ rest.head?, c.isDigit = false) :
    spanDigits (text ++ rest) = (text, rest) := by
  have hstop : rest.takeWhile Char.isDigit = [] ∧ rest.dropWhile Char.isDigit = rest := by
    cases rest with
    | nil => exact ⟨rfl, rfl⟩
    | cons c others =>
      have hc := hrest c rfl
      simp [hc]
  rw [spanDigits, List.takeWhile_append_of_pos hdigits, List.dropWhile_append_of_pos hdigits,
    hstop.1, hstop.2, List.append_nil]

theorem places_pos {n : Nat} (hpos : 0 < n) : places n = places (n / 10) + 1 := by
  rw [places, if_neg (by omega)]

/-- The number of places bounds a number from both sides. -/
theorem lt_pow_places (n : Nat) : n < 10 ^ places n := by
  induction n using Nat.strong_induction_on with
  | _ n ih =>
    rcases Nat.eq_zero_or_pos n with rfl | hpos
    · decide +kernel
    · have hquot := ih (n / 10) (by omega)
      rw [places_pos hpos, Nat.pow_succ]
      omega

theorem pow_places_le {n : Nat} (hpos : 0 < n) : 10 ^ places n ≤ 10 * n := by
  induction n using Nat.strong_induction_on with
  | _ n ih =>
    rw [places_pos hpos, Nat.pow_succ]
    rcases Nat.eq_zero_or_pos (n / 10) with hzero | hquot
    · rw [hzero, places]
      simp
      omega
    · have := ih (n / 10) (by omega) hquot
      omega

end MetricBridge.Decimal
