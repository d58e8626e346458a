/-
# What numbers of JSON say

The double that a number spells, as a relation between the two. A number is taken as a decimal of
its leading digits, as many as 64 bits can take, and rounded in steps: the coefficient, the power of
ten, and what these make together. This is the double nearest to the number if its digits fit 64
bits and no power of ten is left to count in, as with all whole numbers that are kept whole;
otherwise it need not be.

Two things are odd about the leading digits. A digit before the point for which there is no room is
only counted, but those behind the point are tried again. And an exponent beyond 31 bits is not
counted with at all: it makes zero of the number, or the number is not read.
-/

import Mathlib
import MetricBridge.Proofs.Binary64.Scaling
import MetricBridge.Proofs.Decimal.Bounded
import MetricBridge.Proofs.Json.Exact

namespace MetricBridge.Json

open Binary64 (Magnitude)
open Decimal (IsDigits)
open Text (Shorter Within)

/-! ### Spellings -/

/-- Behind some digits in front, 64 bits take these digits and no more. -/
structure IsCut (front taken untaken : List Char) : Prop where
  fits : Decimal.value (front ++ taken) < 2 ^ 64
  full : ∀ c ∈ untaken.head?, 2 ^ 64 ≤ Decimal.value (front ++ taken ++ [c])

/-- The decimal of the leading digits of a number, which is given by its digits before and behind
the point. -/
inductive Leads : (whole places : List Char) → Decimal → Prop
  | mk {taken untaken further left : List Char} (hwhole : IsCut [] taken untaken)
      (hplaces : IsCut taken further left) :
      Leads (taken ++ untaken) (further ++ left)
        ⟨Decimal.value (taken ++ further), untaken.length - further.length⟩

/-- The magnitude of a decimal times a power of ten. -/
inductive Amounts (leading : Decimal) (exponent : ℤ) : Magnitude → Prop
  | scaled {start result : Magnitude} (hexponent : exponent.natAbs < 2 ^ 31)
      (hstart : start.IsNearest leading.coefficient)
      (hscales : Magnitude.Scales (leading.exponent + exponent) start result) :
      Amounts leading exponent result
  | vanished (hexponent : 2 ^ 31 ≤ exponent.natAbs)
      (hsmall : leading.coefficient = 0 ∨ exponent < 0) : Amounts leading exponent .zero

/-- The digits behind the point, and the point in front of them. -/
inductive SpellsPlaces : (places text : List Char) → Prop
  | none : SpellsPlaces [] []
  | some {places : List Char} (hplaces : IsDigits places) : SpellsPlaces places ('.' :: places)

/-- The exponent of a number, zero where it has none. -/
inductive SpellsExponent : (exponent : ℤ) → (text : List Char) → Prop
  | none : SpellsExponent 0 []
  | some {mark : Char} {sign digits : List Char} (hmark : mark = 'e' ∨ mark = 'E')
      (hsign : sign ∈ [[], ['+'], ['-']]) (hdigits : IsDigits digits) :
      SpellsExponent (if sign = ['-'] then -Decimal.value digits else Decimal.value digits)
        (mark :: sign ++ digits)

/-- What a number says behind its sign. -/
inductive SpellsUnsigned (negative : Bool) : (value : Binary64) → (text : List Char) → Prop
  | mk {whole places fraction exponent : List Char} {leading : Decimal} {power : ℤ}
      {magnitude : Magnitude} (hwhole : IsWhole whole) (hfraction : SpellsPlaces places fraction)
      (hexponent : SpellsExponent power exponent) (hleads : Leads whole places leading)
      (hamounts : Amounts leading power magnitude) :
      SpellsUnsigned negative (.finite negative magnitude) (whole ++ fraction ++ exponent)

/-- The double that a number says. -/
inductive SpellsDouble : (value : Binary64) → (text : List Char) → Prop
  | plain {value : Binary64} {text : List Char} (htext : SpellsUnsigned false value text) :
      SpellsDouble value text
  | minus {value : Binary64} {text : List Char} (htext : SpellsUnsigned true value text) :
      SpellsDouble value ('-' :: text)

/-! ### Leading digits -/

theorem value_concat (digits : List Char) (c : Char) :
    Decimal.value (digits ++ [c]) = 10 * Decimal.value digits + Decimal.digitValue c := by
  rw [Decimal.value, Decimal.valueFrom_append]
  rfl

theorem value_le_append (digits more : List Char) :
    Decimal.value digits ≤ Decimal.value (digits ++ more) := by
  rw [Decimal.value, Decimal.value, Decimal.valueFrom_append]
  exact Decimal.le_valueFrom _ more

theorem gather_of_isCut {front taken untaken : List Char} (hcut : IsCut front taken untaken) :
    gather (Decimal.value front) (taken ++ untaken) =
      (Decimal.value (front ++ taken), untaken) := by
  induction taken generalizing front with
  | nil =>
    rw [List.nil_append, List.append_nil]
    cases untaken with
    | nil => rfl
    | cons c rest =>
      have hfull := hcut.full c rfl
      rw [List.append_nil, value_concat] at hfull
      rw [gather]
      simp only [Nat.pow_eq]
      rw [if_neg (by omega)]
  | cons c taken ih =>
    have hsame : front ++ c :: taken = front ++ [c] ++ taken := by simp
    have hnext : Decimal.value (front ++ [c]) < 2 ^ 64 :=
      lt_of_le_of_lt (value_le_append _ taken) (hsame ▸ hcut.fits)
    rw [value_concat] at hnext
    rw [List.cons_append, gather]
    simp only [Nat.pow_eq]
    rw [if_pos hnext, ← value_concat, hsame]
    exact ih ⟨hsame ▸ hcut.fits, by simpa only [hsame] using hcut.full⟩

theorem exists_isCut {front : List Char} (hfits : Decimal.value front < 2 ^ 64)
    (digits : List Char) :
    ∃ taken untaken, digits = taken ++ untaken ∧ IsCut front taken untaken := by
  induction digits generalizing front with
  | nil => exact ⟨[], [], rfl, by simpa using hfits, by simp⟩
  | cons c rest ih =>
    by_cases hnext : Decimal.value (front ++ [c]) < 2 ^ 64
    · obtain ⟨taken, untaken, rfl, hcut⟩ := ih hnext
      have hsame : front ++ c :: taken = front ++ [c] ++ taken := by simp
      exact ⟨c :: taken, untaken, rfl, hsame ▸ hcut.fits, hsame ▸ hcut.full⟩
    · refine ⟨[], c :: rest, rfl, by simpa using hfits, ?_⟩
      rintro _ ⟨⟩
      simpa using hnext

/-- Every number has the leading digits that the reader takes, and no others. -/
theorem leads_iff {whole places : List Char} {decimal : Decimal} :
    Leads whole places decimal ↔ decimal = leading whole places := by
  have hleading {taken untaken further left : List Char} (hwhole : IsCut [] taken untaken)
      (hplaces : IsCut taken further left) : leading (taken ++ untaken) (further ++ left) =
        ⟨Decimal.value (taken ++ further), untaken.length - further.length⟩ := by
    have hfirst := gather_of_isCut hwhole
    rw [List.nil_append] at hfirst
    rw [leading]
    simp only [show gather 0 (taken ++ untaken) = (Decimal.value taken, untaken) from hfirst,
      gather_of_isCut hplaces, List.length_append]
    congr 1
    omega
  constructor
  · rintro ⟨hwhole, hplaces⟩
    exact (hleading hwhole hplaces).symm
  · rintro rfl
    obtain ⟨taken, untaken, rfl, hwhole⟩ :=
      exists_isCut (show Decimal.value [] < 2 ^ 64 by decide) whole
    obtain ⟨further, left, rfl, hplaces⟩ := exists_isCut hwhole.fits places
    rw [hleading hwhole hplaces]
    exact .mk hwhole hplaces

/-! ### Magnitudes -/

/-- A whole number is rounded once. -/
theorem amounts_whole_iff {n : ℕ} {magnitude : Magnitude} :
    Amounts ⟨n, 0⟩ 0 magnitude ↔ magnitude.IsNearest n := by
  constructor
  · intro hamounts
    cases hamounts with
    | scaled _ hstart hscales =>
      rw [add_zero, Magnitude.scales_zero_iff] at hscales
      exact hscales ▸ hstart
    | vanished hexponent => simp at hexponent
  · intro hnearest
    exact .scaled (by decide) hnearest (Magnitude.scales_zero_iff.2 rfl)

theorem ofInt_eq_iff {n : ℤ} (hbound : n.natAbs < 2 ^ 64) {double : Binary64} :
    Binary64.ofInt n = double ↔ ∃ magnitude : Magnitude, magnitude.IsNearest n.natAbs ∧
      double = .finite (decide (n < 0)) magnitude := by
  have hfinite := Binary64.isFinite_ofInt hbound
  have hvalue : (⟨n.natAbs, 0⟩ : Decimal).toRat = n.natAbs := by
    simp [Decimal.toRat]
  have hnearest (magnitude : Magnitude) :
      Magnitude.ofDecimal? ⟨n.natAbs, 0⟩ = some magnitude ↔ magnitude.IsNearest n.natAbs := by
    rw [Magnitude.ofDecimal?_eq_some_iff, hvalue]
  rw [Binary64.ofInt, Binary64.ofDecimal] at hfinite ⊢
  cases hrounded : Magnitude.ofDecimal? ⟨n.natAbs, 0⟩ with
  | none =>
    rw [hrounded] at hfinite
    cases hfinite
  | some magnitude =>
    rw [hrounded] at hnearest
    simp only [← hnearest, Option.some.injEq]
    constructor
    · intro hsame
      exact ⟨magnitude, rfl, hsame.symm⟩
    · rintro ⟨_, rfl, rfl⟩
      rfl

/-- The exponent that was read, zero where there was none. -/
def exponentOf (exponent : Option (Bool × List Char)) : ℤ :=
  let part := exponent.getD (false, [])
  if part.1 then -Decimal.value part.2 else Decimal.value part.2

theorem natAbs_exponentOf (exponent : Option (Bool × List Char)) :
    (exponentOf exponent).natAbs = Decimal.value (exponent.getD (false, [])).2 := by
  rw [exponentOf]
  split_ifs <;> simp

theorem exponentOverflow?_eq_none_iff {digits : List Char} :
    exponentOverflow? digits = none ↔ Decimal.value digits < 2 ^ 31 := by
  have hbound : Decimal.value digits < 2 ^ 31 ↔ Decimal.value digits ≤ 2147483647 := Nat.lt_succ_iff
  simp only [exponentOverflow?, List.find?_eq_none, List.mem_range, decide_eq_true_eq, not_lt,
    hbound]
  constructor
  · intro hall
    simpa using hall digits.length (Nat.lt_succ_self _)
  · intro hwhole count _
    have hpart := value_le_append (digits.take count) (digits.drop count)
    rw [List.take_append_drop] at hpart
    exact hpart.trans hwhole

theorem realNumber_eq_ok_iff {negative : Bool} {leading : Decimal}
    {exponent : Option (Bool × List Char)} {rest : List Char} {double : Binary64} :
    realNumber negative leading exponent rest = .ok double ↔
      ∃ magnitude, Amounts leading (exponentOf exponent) magnitude ∧
        double = .finite negative magnitude := by
  have hsize := natAbs_exponentOf exponent
  unfold realNumber
  simp only
  cases hoverflow : exponentOverflow? (exponent.getD (false, [])).2 with
  | none =>
    rw [exponentOverflow?_eq_none_iff, ← hsize] at hoverflow
    have hamounts (magnitude : Magnitude) : Amounts leading (exponentOf exponent) magnitude ↔
        Magnitude.ofScaledDecimal? ⟨leading.coefficient, leading.exponent + exponentOf exponent⟩ =
          some magnitude := by
      rw [Magnitude.ofScaledDecimal?_eq_some_iff]
      constructor
      · rintro (⟨_, hstart, hscales⟩ | ⟨hlarge, _⟩)
        · exact ⟨_, hstart, hscales⟩
        · omega
      · rintro ⟨start, hstart, hscales⟩
        exact .scaled hoverflow hstart hscales
    simp only [hamounts]
    unfold exponentOf
    simp only
    split
    next magnitude hrounded =>
      rw [Except.ok.injEq, eq_comm]
      simp [hrounded]
    next hrounded => simp [hrounded]
  | some count =>
    have hlarge : 2 ^ 31 ≤ (exponentOf exponent).natAbs := by
      rw [hsize, ← not_lt, ← exponentOverflow?_eq_none_iff, hoverflow]
      simp
    have hbelow : (exponent.getD (false, [])).1 = true ↔ exponentOf exponent < 0 := by
      rw [hsize] at hlarge
      rw [exponentOf]
      generalize exponent.getD (false, []) = part at hlarge
      obtain ⟨below, digits⟩ := part
      cases below
      · simp
      · simp only at hlarge
        simp [show 0 < Decimal.value digits by omega]
    have hamounts (magnitude : Magnitude) : Amounts leading (exponentOf exponent) magnitude ↔
        magnitude = .zero ∧ (leading.coefficient = 0 ∨ exponentOf exponent < 0) := by
      constructor
      · rintro (⟨hexponent, _, _⟩ | ⟨_, hsmall⟩)
        · omega
        · exact ⟨rfl, hsmall⟩
      · rintro ⟨rfl, hsmall⟩
        exact .vanished hlarge hsmall
    simp only [hamounts, ← hbelow]
    split_ifs with hsmall
    · rw [Except.ok.injEq, eq_comm]
      simp [hsmall]
    · simp [hsmall]

theorem wholeNumber_toBinary64_iff {negative : Bool} {digits rest : List Char}
    {double : Binary64} :
    (∃ number, wholeNumber negative digits rest = .ok number ∧ number.toBinary64 = double) ↔
      ∃ magnitude, Amounts (leading digits []) 0 magnitude ∧
        double = .finite negative magnitude := by
  have hreal : (∃ number, (realNumber negative (leading digits []) none rest).map Number.real =
      .ok number ∧ number.toBinary64 = double) ↔
      ∃ magnitude, Amounts (leading digits []) 0 magnitude ∧
        double = .finite negative magnitude := by
    have hiff : realNumber negative (leading digits []) none rest = .ok double ↔
        ∃ magnitude, Amounts (leading digits []) 0 magnitude ∧
          double = .finite negative magnitude := realNumber_eq_ok_iff
    rw [← hiff]
    cases realNumber negative (leading digits []) none rest <;>
      simp [Except.map, Number.toBinary64]
  -- What is kept whole has all its digits among the leading ones.
  have hkept (n : ℤ) (hfits : Decimal.value digits < 2 ^ 64)
      (hsize : n.natAbs = Decimal.value digits) (hsign : decide (n < 0) = negative) :
      (Number.whole n).toBinary64 = double ↔
        ∃ magnitude, Amounts (leading digits []) 0 magnitude ∧
          double = .finite negative magnitude := by
    have hleading : leading digits [] = ⟨Decimal.value digits, 0⟩ := by
      have hcut : IsCut [] digits [] := ⟨hfits, by simp⟩
      have hnone : IsCut digits [] [] := ⟨by simpa using hfits, by simp⟩
      simpa using (leads_iff.1 (.mk hcut hnone)).symm
    rw [Number.toBinary64, ofInt_eq_iff (hsize ▸ hfits), hleading, hsize, hsign]
    simp only [amounts_whole_iff]
  unfold wholeNumber
  simp only [Nat.pow_eq]
  split_ifs with hnegative hbound hbound
  · subst hnegative
    simpa using hkept (-Decimal.value digits) (by omega) (by simp) (by simpa using hbound.1)
  · subst hnegative
    exact hreal
  · obtain rfl : negative = false := by simpa using hnegative
    simpa using hkept (Decimal.value digits) hbound (by simp) (by simp)
  · obtain rfl : negative = false := by simpa using hnegative
    exact hreal

theorem exponentOf_some (sign digits : List Char) :
    exponentOf (some (decide (sign = ['-']), digits)) =
      if sign = ['-'] then -(Decimal.value digits : ℤ) else Decimal.value digits := by
  simp [exponentOf]

/-! ### Spellings are read -/

section Completeness

variable {digits places rest : List Char}

theorem exists_fractionDigits (hplaces : IsDigits places)
    (hrest : ∀ c ∈ rest.head?, c.isDigit = false) :
    ∃ hlength, fractionDigits ('.' :: (places ++ rest)) = .ok (some (places, ⟨rest, hlength⟩)) := by
  have hspan := Decimal.spanDigits_append_of_not_digit hplaces.2 hrest
  obtain ⟨htake, hdrop⟩ := Prod.mk.inj hspan
  refine ⟨by simp only [List.length_append, List.length_cons]; omega, ?_⟩
  rw [fractionDigits]
  simp only [htake, if_neg hplaces.1]
  exact congrArg (fun after => Except.ok (some (places, after))) (Subtype.ext hdrop)

theorem exists_exponentDigits {mark : Char} {sign : List Char} (hmark : mark = 'e' ∨ mark = 'E')
    (hsign : sign ∈ [[], ['+'], ['-']]) (hdigits : IsDigits digits)
    (hrest : ∀ c ∈ rest.head?, c.isDigit = false) :
    ∃ hlength, exponentDigits (mark :: (sign ++ digits ++ rest)) =
      .ok (some (decide (sign = ['-']), digits, ⟨rest, hlength⟩)) := by
  have hspan := Decimal.spanDigits_append_of_not_digit hdigits.2 hrest
  obtain ⟨htake, hdrop⟩ := Prod.mk.inj hspan
  have hunsigned : (afterSign (sign ++ digits ++ rest)).1 = digits ++ rest := by
    rw [List.append_assoc, afterSign_append hsign hdigits]
  have hbelow : (sign ++ digits ++ rest).head? = some '-' ↔ sign = ['-'] := by
    obtain ⟨c, others, rfl, hc, -⟩ := hdigits.exists_cons
    simp only [List.mem_cons, List.not_mem_nil, or_false] at hsign
    rcases hsign with rfl | rfl | rfl
    · have hminus : c ≠ '-' := by rintro rfl; cases hc
      simp [hminus]
    · simp
    · simp
  refine ⟨by simp only [List.length_append, List.length_cons]; omega, ?_⟩
  rw [exponentDigits, if_pos hmark]
  simp only [hunsigned, htake, if_neg hdigits.1, hbelow]
  refine congrArg (fun after => Except.ok (some (_, digits, after))) (Subtype.ext ?_)
  show skipDigits (afterSign _).1 = rest
  rw [hunsigned]
  exact hdrop

end Completeness

/-! ### What is read was spelled -/

section Soundness

variable {text digits : List Char}

theorem isWhole_of_wholeDigits {rest : Shorter text}
    (hread : wholeDigits text = .ok (digits, rest)) : IsWhole digits ∧ text = digits ++ rest.1 := by
  unfold wholeDigits at hread
  split at hread
  · cases hread
  next c others =>
    split_ifs at hread with hnull hany hdigit
    · cases hread
      exact ⟨⟨⟨by simp, by simp⟩, fun _ => rfl⟩, by rw [hnull]; rfl⟩
    · cases hread
      refine ⟨⟨⟨by simp, ?_⟩, ?_⟩, ?_⟩
      · refine List.forall_mem_cons.2 ⟨hdigit, fun d hd => ?_⟩
        exact List.mem_takeWhile_imp hd
      · intro hhead
        exact absurd (Option.some.inj hhead) hnull
      · exact congrArg (c :: ·) (takeWhile_append_skipDigits others).symm

theorem isDigits_of_fractionDigits {places : List Char} {rest : Within text}
    (hread : fractionDigits text = .ok (some (places, rest))) :
    IsDigits places ∧ text = '.' :: places ++ rest.1 := by
  unfold fractionDigits at hread
  split at hread
  next others =>
    simp only at hread
    split_ifs at hread with hnone
    cases hread
    refine ⟨⟨hnone, fun d hd => List.mem_takeWhile_imp hd⟩, ?_⟩
    exact congrArg ('.' :: ·) (takeWhile_append_skipDigits others).symm
  · cases hread

theorem exists_of_exponentDigits {below : Bool} {rest : Within text}
    (hread : exponentDigits text = .ok (some (below, digits, rest))) :
    ∃ spelled, SpellsExponent (exponentOf (some (below, digits))) spelled ∧
      text = spelled ++ rest.1 := by
  unfold exponentDigits at hread
  split at hread
  next mark others =>
    simp only at hread
    split_ifs at hread with hmark hnone
    · cases hread
      obtain ⟨sign, hsign, hothers, hbelow⟩ := exists_sign others
      have hdigits : IsDigits ((afterSign others).1.takeWhile Char.isDigit) :=
        ⟨hnone, fun d hd => List.mem_takeWhile_imp hd⟩
      have hspells := SpellsExponent.some hmark hsign hdigits
      rw [← exponentOf_some, ← decide_eq_decide.2 hbelow] at hspells
      refine ⟨_, hspells, ?_⟩
      show mark :: others = mark :: sign ++ _ ++ skipDigits (afterSign others).1
      rw [List.append_assoc, takeWhile_append_skipDigits, List.cons_append, ← hothers]
    · cases hread
  · cases hread

end Soundness

/-! ### Numbers -/

section

variable {negative : Bool} {text : List Char}

/-- What was read as a number is a spelling of it. -/
theorem exists_of_unsignedNumber {result : Number} {rest : Shorter text}
    (hread : unsignedNumber negative text = .ok (result, rest)) :
    ∃ spelled, SpellsUnsigned negative result.toBinary64 spelled ∧ text = spelled ++ rest.1 := by
  unfold unsignedNumber at hread
  obtain ⟨⟨digits, afterWhole⟩, hwhole, hread⟩ := exists_of_bind_eq_ok hread
  obtain ⟨hdigits, htext⟩ := isWhole_of_wholeDigits hwhole
  obtain ⟨fraction, hfraction, hread⟩ := exists_of_bind_eq_ok hread
  cases fraction with
  | none =>
    obtain ⟨exponent, hexponent, hread⟩ := exists_of_bind_eq_ok hread
    cases exponent with
    | none =>
      obtain ⟨number, hnumber, hread⟩ := exists_of_bind_eq_ok hread
      cases hread
      obtain ⟨magnitude, hamounts, hvalue⟩ := wholeNumber_toBinary64_iff.1 ⟨_, hnumber, rfl⟩
      rw [hvalue]
      exact ⟨_, .mk hdigits .none .none (leads_iff.2 rfl) hamounts, by simpa using htext⟩
    | some exponent =>
      obtain ⟨below, exponent, after⟩ := exponent
      obtain ⟨double, hdouble, hread⟩ := exists_of_bind_eq_ok hread
      cases hread
      obtain ⟨magnitude, hamounts, rfl⟩ := realNumber_eq_ok_iff.1 hdouble
      obtain ⟨spelled, hpower, hafter⟩ := exists_of_exponentDigits hexponent
      refine ⟨_, .mk hdigits .none hpower (leads_iff.2 rfl) hamounts, ?_⟩
      have hspelled := htext.trans (congrArg (digits ++ ·) hafter)
      simpa using hspelled
  | some fraction =>
    obtain ⟨places, afterFraction⟩ := fraction
    obtain ⟨hplaces, hbehind⟩ := isDigits_of_fractionDigits hfraction
    have hspelled := htext.trans (congrArg (digits ++ ·) hbehind)
    obtain ⟨exponent, hexponent, hread⟩ := exists_of_bind_eq_ok hread
    cases exponent with
    | none =>
      obtain ⟨double, hdouble, hread⟩ := exists_of_bind_eq_ok hread
      cases hread
      obtain ⟨magnitude, hamounts, rfl⟩ := realNumber_eq_ok_iff.1 hdouble
      refine ⟨_, .mk hdigits (.some hplaces) .none (leads_iff.2 rfl) hamounts, ?_⟩
      simpa using hspelled
    | some exponent =>
      obtain ⟨below, exponent, after⟩ := exponent
      obtain ⟨double, hdouble, hread⟩ := exists_of_bind_eq_ok hread
      cases hread
      obtain ⟨magnitude, hamounts, rfl⟩ := realNumber_eq_ok_iff.1 hdouble
      obtain ⟨spelled, hpower, hafter⟩ := exists_of_exponentDigits hexponent
      refine ⟨_, .mk hdigits (.some hplaces) hpower (leads_iff.2 rfl) hamounts, ?_⟩
      have hspelled := hspelled.trans
        (congrArg (fun after => digits ++ ('.' :: places ++ after)) hafter)
      simpa using hspelled

theorem SpellsPlaces.isFraction {places fraction : List Char}
    (hfraction : SpellsPlaces places fraction) : IsFraction fraction := by
  cases hfraction with
  | none => exact .none
  | some hplaces => exact .some hplaces

theorem SpellsExponent.isExponent {power : ℤ} {exponent : List Char}
    (hexponent : SpellsExponent power exponent) : IsExponent exponent := by
  cases hexponent with
  | none => exact .none
  | some hmark hsign hdigits => exact .some hmark hsign hdigits

/-- A spelling of a double is read as a number that is this double. -/
theorem exists_unsignedNumber {double : Binary64} (htext : SpellsUnsigned negative double text)
    {rest : List Char} (hends : EndsValue rest) :
    ∃ number : Number, plain (unsignedNumber negative (text ++ rest)) = .ok (number, rest) ∧
      number.toBinary64 = double := by
  obtain ⟨hwhole, hfraction, hexponent, hleads, hamounts⟩ := htext
  obtain rfl := leads_iff.1 hleads
  have hrest := not_mem_number_of_endsValue hends
  simp only [List.mem_cons, List.not_mem_nil, or_false, not_or] at hrest
  have hbehindFraction := head_exponent hexponent.isExponent
    fun c hc => ⟨(hrest c hc).1, (hrest c hc).2.1⟩
  have hbehindWhole := head_fraction hfraction.isFraction fun c hc => (hbehindFraction c hc).1
  obtain ⟨_, hreadWhole⟩ := exists_of_plain (wholeDigits_append hwhole hbehindWhole)
  rw [List.append_assoc, List.append_assoc, unsignedNumber, hreadWhole]
  cases hfraction with
  | none =>
    simp only [bind, Except.bind, List.nil_append,
      fractionDigits_eq_none fun c hc => (hbehindFraction c hc).2]
    cases hexponent with
    | none =>
      obtain ⟨number, hnumber, hvalue⟩ : ∃ number, wholeNumber negative _ rest = .ok number ∧ _ :=
        wholeNumber_toBinary64_iff.2 ⟨_, hamounts, rfl⟩
      refine ⟨number, ?_, hvalue⟩
      simp only [List.nil_append, exponentDigits_eq_none fun c hc => (hrest c hc).2.2, hnumber]
      rfl
    | some hmark hsign hdigits =>
      rw [← exponentOf_some] at hamounts
      have hdouble : realNumber negative _ _ rest = _ := realNumber_eq_ok_iff.2 ⟨_, hamounts, rfl⟩
      obtain ⟨_, hreadExponent⟩ :=
        exists_exponentDigits hmark hsign hdigits fun c hc => (hrest c hc).1
      refine ⟨.real _, ?_, rfl⟩
      simp only [List.cons_append, hreadExponent, hdouble]
      rfl
  | some hplaces =>
    obtain ⟨_, hreadFraction⟩ :=
      exists_fractionDigits hplaces fun c hc => (hbehindFraction c hc).1
    simp only [bind, Except.bind, List.cons_append, hreadFraction]
    cases hexponent with
    | none =>
      have hdouble : realNumber negative _ none rest = _ :=
        realNumber_eq_ok_iff.2 ⟨_, hamounts, rfl⟩
      refine ⟨.real _, ?_, rfl⟩
      simp only [List.nil_append, exponentDigits_eq_none fun c hc => (hrest c hc).2.2, hdouble]
      rfl
    | some hmark hsign hdigits =>
      rw [← exponentOf_some] at hamounts
      have hdouble : realNumber negative _ _ rest = _ := realNumber_eq_ok_iff.2 ⟨_, hamounts, rfl⟩
      obtain ⟨_, hreadExponent⟩ :=
        exists_exponentDigits hmark hsign hdigits fun c hc => (hrest c hc).1
      refine ⟨.real _, ?_, rfl⟩
      simp only [List.cons_append, hreadExponent, hdouble]
      rfl

end

/-! ### Doubles -/

theorem exists_of_number {text : List Char} {result : Number} {rest : Shorter text}
    (hread : number text = .ok (result, rest)) :
    ∃ spelled, SpellsDouble result.toBinary64 spelled ∧ text = spelled ++ rest.1 := by
  unfold number at hread
  split at hread
  next others =>
    obtain ⟨⟨found, after⟩, hunsigned, hread⟩ := exists_of_bind_eq_ok hread
    cases hread
    obtain ⟨spelled, hspells, hothers⟩ := exists_of_unsignedNumber hunsigned
    exact ⟨'-' :: spelled, .minus hspells, congrArg ('-' :: ·) hothers⟩
  next =>
    obtain ⟨spelled, hspells, htext⟩ := exists_of_unsignedNumber hread
    exact ⟨spelled, .plain hspells, htext⟩

theorem readsOnly_double : ReadsOnly double SpellsDouble := by
  intro text value rest hread
  obtain ⟨gap, hgap, htext⟩ := exists_gap text
  obtain ⟨hlength, hread⟩ := exists_of_plain hread
  unfold double numberAs at hread
  split at hread
  · cases hread
  next c others hspace =>
    split_ifs at hread with hc
    · obtain ⟨⟨found, after⟩, hnumber, hread⟩ := exists_of_bind_eq_ok hread
      cases hread
      obtain ⟨spelled, hspells, hothers⟩ := exists_of_number hnumber
      refine ⟨gap, spelled, hgap, hspells, ?_⟩
      calc text = gap ++ c :: others := by rw [htext, hspace]
        _ = gap ++ (spelled ++ after.1) := congrArg (gap ++ ·) hothers
        _ = gap ++ spelled ++ after.1 := (List.append_assoc ..).symm
    · exact absurd hread wrongKind_ne_ok

theorem SpellsUnsigned.exists_cons {negative : Bool} {double : Binary64} {text : List Char}
    (htext : SpellsUnsigned negative double text) :
    ∃ c others, text = c :: others ∧ c.isDigit = true := by
  obtain ⟨⟨hdigits, -⟩, -⟩ := htext
  obtain ⟨c, others, rfl, hc, -⟩ := hdigits.exists_cons
  exact ⟨c, _, rfl, hc⟩

/-- What a number begins with. -/
theorem SpellsDouble.exists_cons {double : Binary64} {text : List Char}
    (htext : SpellsDouble double text) :
    ∃ c others, text = c :: others ∧ (c = '-' ∨ c.isDigit = true) := by
  cases htext with
  | plain htext =>
    obtain ⟨c, others, rfl, hc⟩ := htext.exists_cons
    exact ⟨c, others, rfl, Or.inr hc⟩
  | minus => exact ⟨'-', _, rfl, Or.inl rfl⟩

theorem SpellsDouble.beginsToken {double : Binary64} {c : Char} {others : List Char}
    (htext : SpellsDouble double (c :: others)) : BeginsToken c := by
  obtain ⟨_, _, ⟨⟩, rfl | hc⟩ := htext.exists_cons
  · exact ⟨by decide, by decide⟩
  · exact beginsToken_of_isDigit hc

theorem exists_number {double : Binary64} {text rest : List Char}
    (htext : SpellsDouble double text) (hends : EndsValue rest) :
    ∃ result : Number, plain (number (text ++ rest)) = .ok (result, rest) ∧
      result.toBinary64 = double := by
  cases htext with
  | plain htext =>
    obtain ⟨result, hread, hvalue⟩ := exists_unsignedNumber htext hends
    refine ⟨result, ?_, hvalue⟩
    obtain ⟨c, others, rfl, hc⟩ := htext.exists_cons
    rw [number_of_ne_minus, hread]
    rintro _ ⟨⟩ rfl
    cases hc
  | minus htext =>
    obtain ⟨result, hread, hvalue⟩ := exists_unsignedNumber htext hends
    refine ⟨result, ?_, hvalue⟩
    obtain ⟨hlength, hread⟩ := exists_of_plain hread
    rw [List.cons_append, number, hread]
    rfl

/-- Every spelling of a double is read as this double. -/
theorem reads_double {value : Binary64} {text : List Char} (htext : SpellsDouble value text) :
    Reads double value text := by
  intro gap rest hgap hends
  obtain ⟨result, hread, hvalue⟩ := exists_number htext hends
  obtain ⟨c, others, rfl, hc⟩ := htext.exists_cons
  exact plain_numberAs (skipSpace_token hgap htext.beginsToken others rest) ⟨c, _, rfl, hc⟩ hread
    (congrArg Except.ok hvalue)

theorem understands_double : Understands double SpellsDouble where
  begins value text htext := by
    obtain ⟨c, others, rfl, hc⟩ := htext.exists_cons
    exact ⟨c, others, rfl, htext.beginsToken⟩
  reads _ _ htext := reads_double htext
  only := readsOnly_double

/-- No number begins like null. -/
theorem not_spellsDouble_n {value : Binary64} {others : List Char} :
    ¬ SpellsDouble value ('n' :: others) := by
  intro htext
  obtain ⟨_, _, ⟨⟩, hc⟩ := htext.exists_cons
  revert hc
  decide

end MetricBridge.Json
