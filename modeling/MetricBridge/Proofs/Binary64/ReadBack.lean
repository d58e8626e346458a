/-
# Doubles read back

A layout writes a double as digits with at most one point and perhaps an exponent, or as one of
the words for what is not finite. Wherever the point stands, the decimal that was written is
read again, up to zeros behind it; so the text reads back as the same double. In a line there is
no exponent, and the text holds no blank.
-/

import Mathlib
import MetricBridge.Binary64.Layout
import MetricBridge.Binary64.Read
import MetricBridge.Proofs.Binary64.Nearest

namespace MetricBridge.Binary64

/-! ### Reading decimals -/

/-- What may stand behind the digits of a decimal does not go on with them. -/
theorem head_of_exponent? {tail : List Char} {exponent : ℤ}
    (htail : exponent? tail = some exponent) :
    ∀ c ∈ tail.head?, c.isDigit = false ∧ c ≠ '.' := by
  cases tail with
  | nil => simp
  | cons mark rest =>
    rintro c ⟨⟩
    have hmark : mark.toLower = 'e' := by
      by_contra hother
      rw [exponent?, if_neg hother] at htail
      cases htail
    constructor
    · cases hdigit : mark.isDigit with
      | false => rfl
      | true =>
        rw [Decimal.toLower_of_isDigit hdigit] at hmark
        rw [hmark] at hdigit
        cases hdigit
    · rintro rfl
      exact absurd hmark (by decide)

theorem decimal?_of_digits {whole tail : List Char} (hne : whole ≠ [])
    (hdigits : ∀ c ∈ whole, c.isDigit = true) {exponent : ℤ}
    (htail : exponent? tail = some exponent) :
    decimal? (whole ++ tail) = some ⟨Decimal.value whole, exponent⟩ := by
  have hhead := head_of_exponent? htail
  have hspan : Decimal.spanDigits (whole ++ tail) = (whole, tail) :=
    Decimal.spanDigits_append_of_not_digit hdigits fun c hmem => (hhead c hmem).1
  cases tail with
  | nil =>
    rw [List.append_nil] at hspan ⊢
    simp [decimal?, hspan, hne, htail]
  | cons mark rest =>
    have hpoint : mark ≠ '.' := (hhead mark rfl).2
    simp [decimal?, hspan, hne, hpoint, htail]

theorem decimal?_of_point {whole fraction tail : List Char} (hne : whole ≠ [])
    (hwhole : ∀ c ∈ whole, c.isDigit = true) (hfraction : ∀ c ∈ fraction, c.isDigit = true)
    {exponent : ℤ} (htail : exponent? tail = some exponent) :
    decimal? (whole ++ '.' :: fraction ++ tail) =
      some ⟨Decimal.value (whole ++ fraction), exponent - fraction.length⟩ := by
  have hspan : Decimal.spanDigits (whole ++ '.' :: (fraction ++ tail)) =
      (whole, '.' :: (fraction ++ tail)) :=
    Decimal.spanDigits_append_of_not_digit hwhole (by simp)
  have hafter : Decimal.spanDigits (fraction ++ tail) = (fraction, tail) :=
    Decimal.spanDigits_append_of_not_digit hfraction
      fun c hmem => (head_of_exponent? htail c hmem).1
  simp [decimal?, hspan, hafter, hne, htail]

/-! ### Layouts of digits -/

section Layouts

variable (layout : Layout)

theorem isDigit_of_mem_zeros {count : Nat} {c : Char} (hmem : c ∈ List.replicate count '0') :
    c.isDigit = true := by
  rw [List.eq_of_mem_replicate hmem]
  rfl

/-- Zeros behind a whole number may as well be in the exponent. -/
theorem toRat_mul_pow (coefficient count : Nat) (exponent : ℤ) :
    Decimal.toRat ⟨coefficient * 10 ^ count, exponent⟩ =
      Decimal.toRat ⟨coefficient, exponent + count⟩ := by
  rw [Decimal.toRat, Decimal.toRat, zpow_add₀ (by norm_num), zpow_natCast]
  push_cast
  ring

/-- Wherever the point stands, the decimal that was written is read. -/
theorem decimal?_positionalText {digits : List Char} (hne : digits ≠ [])
    (hdigits : ∀ c ∈ digits, c.isDigit = true) (exponent : ℤ) :
    ∃ decimal, decimal? (layout.positionalText digits (exponent + digits.length)) =
        some decimal ∧
      decimal.toRat = Decimal.toRat ⟨Decimal.value digits, exponent⟩ := by
  have hnothing : exponent? [] = some 0 := rfl
  unfold Layout.positionalText
  split
  next hsmall =>
    set count := (-(exponent + digits.length)).toNat with hcount
    have hfraction : ∀ c ∈ List.replicate count '0' ++ digits, c.isDigit = true := by
      intro c hmem
      exact (List.mem_append.1 hmem).elim isDigit_of_mem_zeros (hdigits c)
    have htext : ['0', '.'] ++ List.replicate count '0' ++ digits =
        ['0'] ++ '.' :: (List.replicate count '0' ++ digits) ++ [] := by simp
    rw [htext]
    refine ⟨_, decimal?_of_point (by simp) (by simp) hfraction hnothing, ?_⟩
    have hvalue : Decimal.value (['0'] ++ (List.replicate count '0' ++ digits)) =
        Decimal.value digits := by
      rw [← List.append_assoc]
      exact Decimal.value_zeros_append (count + 1) digits
    rw [hvalue]
    congr 2
    rw [List.length_append, List.length_replicate]
    omega
  next hlarge =>
    split
    next hinside =>
      have hpoint : (exponent + digits.length).toNat ≠ 0 := by omega
      rw [← List.append_nil (digits.take _ ++ '.' :: digits.drop _)]
      refine ⟨_, decimal?_of_point ?_ (fun c hmem => hdigits c (List.mem_of_mem_take hmem))
        (fun c hmem => hdigits c (List.mem_of_mem_drop hmem)) hnothing, ?_⟩
      · simp [hne, hpoint]
      · rw [List.take_append_drop]
        congr 2
        rw [List.length_drop]
        omega
    next houtside =>
      have hcount : (exponent + digits.length).toNat - digits.length = exponent.toNat := by
        omega
      have hwhole : ∀ c ∈ digits ++ List.replicate exponent.toNat '0', c.isDigit = true := by
        intro c hmem
        exact (List.mem_append.1 hmem).elim (hdigits c) isDigit_of_mem_zeros
      have hexponent : 0 ≤ exponent := by omega
      rw [hcount]
      split
      next =>
        rw [← List.append_nil (_ ++ ['.', '0'])]
        refine ⟨_, decimal?_of_point (by simp [hne]) hwhole (by simp) hnothing, ?_⟩
        have hvalue : Decimal.value (digits ++ List.replicate exponent.toNat '0' ++ ['0']) =
            Decimal.value digits * 10 ^ (exponent.toNat + 1) := by
          rw [List.append_assoc, ← Decimal.value_append_zeros, List.replicate_succ']
        rw [hvalue, toRat_mul_pow]
        congr 2
        rw [List.length_singleton]
        push_cast
        rw [Int.toNat_of_nonneg hexponent]
        ring
      next =>
        refine ⟨_, decimal?_of_digits (by simp [hne]) hwhole hnothing, ?_⟩
        rw [Decimal.value_append_zeros, toRat_mul_pow, Int.toNat_of_nonneg hexponent, zero_add]

/-- With an exponent the decimal is read as it was written. -/
theorem decimal?_exponentText {digits : List Char} (hne : digits ≠ [])
    (hdigits : ∀ c ∈ digits, c.isDigit = true) (exponent : ℤ) :
    decimal? (layout.exponentText digits (exponent + digits.length - 1)) =
      some ⟨Decimal.value digits, exponent⟩ := by
  set power := exponent + digits.length - 1 with hpower
  have htail : exponent? ('e' :: ((if layout.signsExponent ∧ 0 ≤ power then ['+'] else []) ++
      Decimal.integer power)) = some power := by
    rw [exponent?, if_pos (by decide)]
    split
    next hsigned => exact Decimal.integer?_plus_integer hsigned.2
    next => exact Decimal.integer?_integer power
  have hlength := List.length_pos_iff.2 hne
  have hwhole : ∀ c ∈ digits.take 1, c.isDigit = true :=
    fun c hmem => hdigits c (List.mem_of_mem_take hmem)
  unfold Layout.exponentText
  rw [List.append_assoc _ ('e' :: _), List.cons_append]
  split
  next hone =>
    have htake : digits.take 1 = digits := List.take_of_length_le hone
    rw [htake] at hwhole
    rw [htake, List.append_nil, decimal?_of_digits hne hwhole htail]
    congr 2
    omega
  next hmore =>
    rw [decimal?_of_point (by simp [hne]) hwhole
      (fun c hmem => hdigits c (List.mem_of_mem_drop hmem)) htail, List.take_append_drop]
    congr 2
    rw [List.length_drop]
    omega

/-- The decimal that is read from a magnitude in a layout is rounded to that magnitude. -/
theorem decimal?_magnitudeText (magnitude : Magnitude) :
    ∃ decimal, decimal? (layout.magnitudeText magnitude) = some decimal ∧
      Magnitude.ofDecimal? decimal = some magnitude := by
  unfold Layout.magnitudeText
  split
  next hzero =>
    rw [eq_zero_of_significand_eq_zero hzero]
    split
    · exact ⟨⟨0, -1⟩, rfl, rfl⟩
    · exact ⟨⟨0, 0⟩, rfl, rfl⟩
  next =>
    set shortest := magnitude.shortest layout.tie with hshortest
    have hne := Decimal.digits_ne_nil shortest.coefficient
    have hdigits : ∀ c ∈ Decimal.digits shortest.coefficient, c.isDigit = true :=
      fun c => Decimal.isDigit_of_mem_digits
    have hback : ∀ decimal : Decimal, decimal.toRat =
        Decimal.toRat ⟨Decimal.value (Decimal.digits shortest.coefficient), shortest.exponent⟩ →
        Magnitude.ofDecimal? decimal = some magnitude := by
      intro decimal hvalue
      rw [Magnitude.ofDecimal?_congr hvalue, Decimal.value_digits]
      exact ofDecimal?_shortest _ magnitude
    have hpositional : ∃ decimal, decimal? (layout.positionalText
        (Decimal.digits shortest.coefficient)
        (shortest.exponent + (Decimal.digits shortest.coefficient).length)) = some decimal ∧
        Magnitude.ofDecimal? decimal = some magnitude := by
      obtain ⟨decimal, hread, hvalue⟩ :=
        decimal?_positionalText layout hne hdigits shortest.exponent
      exact ⟨decimal, hread, hback decimal hvalue⟩
    simp only
    split
    next => exact hpositional
    next =>
      split
      next => exact hpositional
      next => exact ⟨_, decimal?_exponentText layout hne hdigits _, hback _ rfl⟩

end Layouts

/-! ### Shape of the text -/

/-- A character of a decimal in a line. -/
def IsDecimalChar (c : Char) : Prop :=
  c.isDigit = true ∨ c = '.'

theorem isDecimalChar_of_mem_positionalText {digits : List Char}
    (hdigits : ∀ c ∈ digits, c.isDigit = true) (point : ℤ) {c : Char}
    (hmem : c ∈ Layout.line.positionalText digits point) : IsDecimalChar c := by
  have hdigit : ∀ c ∈ digits, IsDecimalChar c := fun c hmem => Or.inl (hdigits c hmem)
  have hzero : ∀ count, c ∈ List.replicate count '0' → IsDecimalChar c := by
    intro count hmem
    rw [List.eq_of_mem_replicate hmem]
    exact Or.inl rfl
  unfold Layout.positionalText at hmem
  split at hmem
  next =>
    rcases List.mem_append.1 hmem with hmem | hmem
    · rcases List.mem_append.1 hmem with hmem | hmem
      · rcases List.mem_pair.1 hmem with rfl | rfl
        · exact Or.inl rfl
        · exact Or.inr rfl
      · exact hzero _ hmem
    · exact hdigit c hmem
  next =>
    split at hmem
    next =>
      rcases List.mem_append.1 hmem with hmem | hmem
      · exact hdigit c (List.mem_of_mem_take hmem)
      · rcases List.mem_cons.1 hmem with rfl | hmem
        · exact Or.inr rfl
        · exact hdigit c (List.mem_of_mem_drop hmem)
    next =>
      simp only [Layout.line, Bool.false_eq_true, if_false, List.append_nil] at hmem
      rcases List.mem_append.1 hmem with hmem | hmem
      · exact hdigit c hmem
      · exact hzero _ hmem

section Heads

variable (layout : Layout)

theorem head_positionalText {digits : List Char} (hne : digits ≠ [])
    (hdigits : ∀ c ∈ digits, c.isDigit = true) (point : ℤ) :
    ∃ c rest, layout.positionalText digits point = c :: rest ∧ c.isDigit = true := by
  obtain ⟨first, others, rfl⟩ := List.exists_cons_of_ne_nil hne
  have hfirst := hdigits first List.mem_cons_self
  unfold Layout.positionalText
  split
  next => exact ⟨'0', _, rfl, rfl⟩
  next hpoint =>
    split
    next =>
      obtain ⟨n, hn⟩ : ∃ n, point.toNat = n + 1 := ⟨point.toNat - 1, by omega⟩
      rw [hn]
      exact ⟨first, _, rfl, hfirst⟩
    next => exact ⟨first, _, rfl, hfirst⟩

theorem head_exponentText {digits : List Char} (hne : digits ≠ [])
    (hdigits : ∀ c ∈ digits, c.isDigit = true) (exponent : ℤ) :
    ∃ c rest, layout.exponentText digits exponent = c :: rest ∧ c.isDigit = true := by
  obtain ⟨first, others, rfl⟩ := List.exists_cons_of_ne_nil hne
  exact ⟨first, _, rfl, hdigits first List.mem_cons_self⟩

/-- A magnitude begins with a digit in every layout. -/
theorem head_magnitudeText (magnitude : Magnitude) :
    ∃ c rest, layout.magnitudeText magnitude = c :: rest ∧ c.isDigit = true := by
  unfold Layout.magnitudeText
  split
  next => split <;> exact ⟨'0', _, rfl, rfl⟩
  next =>
    have hne := Decimal.digits_ne_nil (magnitude.shortest layout.tie).coefficient
    have hdigits : ∀ c ∈ Decimal.digits (magnitude.shortest layout.tie).coefficient,
        c.isDigit = true := fun c => Decimal.isDigit_of_mem_digits
    simp only
    split
    next => exact head_positionalText layout hne hdigits _
    next =>
      split
      next => exact head_positionalText layout hne hdigits _
      next => exact head_exponentText layout hne hdigits _

end Heads

/-- A magnitude in a line begins with a digit, goes on with digits and points, and is read as
that magnitude. -/
theorem magnitudeText_spec (magnitude : Magnitude) :
    ∃ c rest decimal, Layout.line.magnitudeText magnitude = c :: rest ∧ c.isDigit = true ∧
      (∀ d ∈ c :: rest, IsDecimalChar d) ∧
      decimal? (c :: rest) = some decimal ∧
      Magnitude.ofDecimal? decimal = some magnitude := by
  obtain ⟨c, rest, htext, hdigit⟩ := head_magnitudeText Layout.line magnitude
  obtain ⟨decimal, hread, hback⟩ := decimal?_magnitudeText Layout.line magnitude
  refine ⟨c, rest, decimal, htext, hdigit, ?_, htext ▸ hread, hback⟩
  intro d hmem
  rw [← htext, Layout.magnitudeText] at hmem
  split at hmem
  next =>
    rw [List.mem_singleton.1 hmem]
    exact Or.inl rfl
  next => exact isDecimalChar_of_mem_positionalText (fun _ => Decimal.isDigit_of_mem_digits) _ hmem

/-! ### Reading back -/

/-- A text that begins with a digit is no word. -/
theorem unsigned?_of_isDigit (negative : Bool) {c : Char} (hdigit : c.isDigit = true)
    (rest : List Char) :
    unsigned? negative (c :: rest) = (decimal? (c :: rest)).map (ofDecimal negative) := by
  have hword : ∀ word : String, ∀ first ∈ word.toList.head?, first.isDigit = false →
      String.ofList ((c :: rest).map Char.toLower) ≠ word := by
    rintro word first hfirst hletter rfl
    rw [String.toList_ofList, List.map_cons, List.head?_cons, Option.mem_some_iff] at hfirst
    rw [← hfirst, Decimal.toLower_of_isDigit hdigit, hdigit] at hletter
    cases hletter
  unfold unsigned?
  simp only
  rw [if_neg, if_neg]
  · exact hword "nan" 'n' rfl rfl
  · rintro (hinf | hinf)
    · exact hword "inf" 'i' rfl rfl hinf
    · exact hword "infinity" 'i' rfl rfl hinf

theorem read?_of_isDigit {c : Char} (hdigit : c.isDigit = true) (rest : List Char) :
    read? (c :: rest) = unsigned? false (c :: rest) := by
  unfold read?
  split
  next heq => cases heq; cases hdigit
  next heq => cases heq; cases hdigit
  next => rfl

/-- Every double is read back from its text, whatever the layout. -/
theorem read?_write (layout : Layout) (value : Binary64) :
    read? (layout.write value) = some value := by
  cases value with
  | nan =>
    have hnan : read? ['N', 'a', 'N'] = some nan := by decide
    exact hnan
  | infinite negative =>
    have hinfinite : ∀ negative, read? (if negative then ['-', 'i', 'n', 'f'] else
        ['i', 'n', 'f']) = some (infinite negative) := by decide
    exact hinfinite negative
  | finite negative magnitude =>
    obtain ⟨c, rest, htext, hdigit⟩ := head_magnitudeText layout magnitude
    obtain ⟨decimal, hread, hback⟩ := decimal?_magnitudeText layout magnitude
    rw [htext] at hread
    have hunsigned : unsigned? negative (c :: rest) = some (finite negative magnitude) := by
      rw [unsigned?_of_isDigit negative hdigit, hread, Option.map_some, ofDecimal, hback]
    cases negative with
    | true =>
      rw [Layout.write, if_pos rfl, htext, read?]
      exact hunsigned
    | false =>
      rw [Layout.write, if_neg Bool.false_ne_true, htext, read?_of_isDigit hdigit]
      exact hunsigned

/-- The text of a double in a line holds no blank. -/
theorem not_isBlank_of_mem_write_line {value : Binary64} {c : Char}
    (hmem : c ∈ Layout.line.write value) : Text.isBlank c = false := by
  have hmagnitude : ∀ magnitude, c ∈ Layout.line.magnitudeText magnitude →
      Text.isBlank c = false := by
    intro magnitude hmem
    obtain ⟨first, rest, -, htext, -, hchars, -⟩ := magnitudeText_spec magnitude
    rcases hchars c (htext ▸ hmem) with hdigit | rfl
    · exact Decimal.not_isBlank_of_isDigit hdigit
    · decide
  have hnan : ∀ c ∈ ['N', 'a', 'N'], Text.isBlank c = false := by simp [Text.isBlank]
  have hinfinite : ∀ c ∈ ['-', 'i', 'n', 'f'], Text.isBlank c = false := by simp [Text.isBlank]
  cases value with
  | nan => exact hnan c hmem
  | infinite negative =>
    cases negative with
    | true => exact hinfinite c hmem
    | false => exact hinfinite c (List.mem_cons_of_mem _ hmem)
  | finite negative magnitude =>
    cases negative with
    | true =>
      rcases List.mem_cons.1 hmem with rfl | hmem
      · decide
      · exact hmagnitude magnitude hmem
    | false => exact hmagnitude magnitude hmem

end MetricBridge.Binary64
