/-
# Texts that differ in letter case only

Only the letters from `A` to `Z` have another case here, as they have for `Char.toLower`. A question
to which all letters have the same answer has the same answer in either case; blanks, digits and
colons are asked for in this way, so trimming a text and taking the digits off its front do the
same in either case.
-/

import Mathlib
import MetricBridge.Proofs.Decimal.Numerals
import MetricBridge.Proofs.Text.Blank

namespace MetricBridge.Text

/-- The texts are the same up to the case of ASCII letters. -/
def SameLetters (text other : List Char) : Prop :=
  text.map Char.toLower = other.map Char.toLower

instance (text other : List Char) : Decidable (SameLetters text other) :=
  inferInstanceAs (Decidable (text.map Char.toLower = other.map Char.toLower))

/-! ### Characters -/

/-- The code points of the letters in upper case; those in lower case are 32 places behind. -/
def upperCodes : List Nat :=
  List.range' 65 26

theorem mem_upperCodes_of_isUpper {c : Char} (hupper : c.isUpper = true) :
    c.toNat ∈ upperCodes := by
  simp only [Char.isUpper, decide_eq_true_eq, UInt32.le_iff_toNat_le] at hupper
  have hbounds : 65 ≤ c.toNat ∧ c.toNat ≤ 90 := hupper
  rw [upperCodes, List.mem_range'_1]
  omega

/-- A question to which each letter has the same answer in both cases has the same answer for every
character and its lower case. -/
theorem apply_toLower {α : Type} (ask : Char → α)
    (hletters : ∀ code ∈ upperCodes, ask (Char.ofNat (code + 32)) = ask (Char.ofNat code))
    (c : Char) : ask c.toLower = ask c := by
  by_cases hupper : c.isUpper = true
  · have hcode := hletters _ (mem_upperCodes_of_isUpper hupper)
    rwa [Char.ofNat_toNat, ← Char.toLower_eq_of_isUpper hupper] at hcode
  · rw [Char.toLower_eq_of_not_isUpper hupper]

@[simp]
theorem isDigit_toLower (c : Char) : c.toLower.isDigit = c.isDigit :=
  apply_toLower _ (by decide +kernel) c

@[simp]
theorem isBlank_toLower (c : Char) : isBlank c.toLower = isBlank c :=
  apply_toLower _ (by decide +kernel) c

theorem toLower_eq_iff_of_not_isAlpha {mark : Char} (hmark : mark.isAlpha = false) {c : Char} :
    c.toLower = mark ↔ c = mark := by
  by_cases hupper : c.isUpper = true
  · have halpha : c.isAlpha = true := by simp [Char.isAlpha, hupper]
    have hlower : c.toLower.isAlpha = true := by rwa [Char.isAlpha_toLower_eq_isAlpha]
    exact iff_of_false (fun heq => by simp_all) (fun heq => by simp_all)
  · rw [Char.toLower_eq_of_not_isUpper hupper]

/-! ### Texts -/

theorem trimStart_lower (text : List Char) :
    trimStart (text.map Char.toLower) = (trimStart text).map Char.toLower := by
  rw [trimStart, List.dropWhile_map]
  congr 2
  funext c
  exact isBlank_toLower c

theorem trim_lower (text : List Char) :
    trim (text.map Char.toLower) = (trim text).map Char.toLower := by
  have hend : ∀ text, trimEnd (text.map Char.toLower) = (trimEnd text).map Char.toLower := by
    intro text
    change (trimStart (text.map Char.toLower).reverse).reverse =
      (trimStart text.reverse).reverse.map Char.toLower
    rw [← List.map_reverse, trimStart_lower, List.map_reverse]
  rw [trim, trimStart_lower, hend, trim]

/-- The digits that a text begins with are the same in either case. -/
theorem spanDigits_lower (text : List Char) :
    Decimal.spanDigits (text.map Char.toLower) =
      ((Decimal.spanDigits text).1, (Decimal.spanDigits text).2.map Char.toLower) := by
  have hdigit : Char.isDigit ∘ Char.toLower = Char.isDigit := funext isDigit_toLower
  have hdigits : ∀ c ∈ text.takeWhile Char.isDigit, c.toLower = c :=
    fun c hc => Decimal.toLower_of_isDigit (List.mem_takeWhile_imp hc)
  rw [Decimal.spanDigits, List.takeWhile_map, List.dropWhile_map, hdigit]
  exact congrArg (·, _) ((List.map_congr_left hdigits).trans (List.map_id' _))

end MetricBridge.Text
