/-
# Blank texts and trimming

Trimming takes a blank text away and nothing else: what it leaves is empty or begins with
a character that is not blank. Blanks are twenty-five code points, so what has to hold of every
blank can be checked for each of them.
-/

import Mathlib
import MetricBridge.Text.Blank

namespace MetricBridge.Text

/-- The code points of the blanks. -/
def blankCodes : List Nat :=
  [0x09, 0x0A, 0x0B, 0x0C, 0x0D, 0x20, 0x85, 0xA0, 0x1680, 0x2000, 0x2001, 0x2002, 0x2003, 0x2004,
    0x2005, 0x2006, 0x2007, 0x2008, 0x2009, 0x200A, 0x2028, 0x2029, 0x202F, 0x205F, 0x3000]

theorem mem_blankCodes_of_isBlank {c : Char} (hblank : isBlank c = true) :
    c.toNat ∈ blankCodes := by
  simp only [isBlank, Bool.or_eq_true, Bool.and_eq_true, decide_eq_true_eq, beq_iff_eq] at hblank
  simp only [blankCodes, List.mem_cons, List.not_mem_nil, or_false]
  omega

/-- What holds of none of the code points holds of no blank. -/
theorem eq_false_of_isBlank {p : Char → Bool}
    (hall : ∀ code ∈ blankCodes, p (Char.ofNat code) = false) {c : Char}
    (hblank : isBlank c = true) : p c = false := by
  have hc := hall _ (mem_blankCodes_of_isBlank hblank)
  rwa [Char.ofNat_toNat] at hc

theorem not_isBlank_of_holds {p : Char → Bool}
    (hall : ∀ code ∈ blankCodes, p (Char.ofNat code) = false) {c : Char} (hc : p c = true) :
    isBlank c = false := by
  by_contra hblank
  have hnot := eq_false_of_isBlank hall (Bool.eq_true_of_not_eq_false hblank)
  rw [hc] at hnot
  cases hnot

/-- No blank is a letter in either case. -/
theorem not_isBlank_of_isUpper {c : Char} (hupper : c.toUpper.isUpper = true) :
    isBlank c = false :=
  not_isBlank_of_holds (p := fun c => c.toUpper.isUpper) (by decide +kernel) hupper

theorem not_isBlank_of_isLower {c : Char} (hlower : c.toLower.isLower = true) :
    isBlank c = false :=
  not_isBlank_of_holds (p := fun c => c.toLower.isLower) (by decide +kernel) hlower

/-- A text of blanks only. -/
def IsBlankText (text : List Char) : Prop :=
  ∀ c ∈ text, isBlank c = true

theorem isBlankText_nil : IsBlankText [] := by
  simp [IsBlankText]

theorem trimStart_append_of_isBlankText {blanks : List Char} (hblanks : IsBlankText blanks)
    (text : List Char) : trimStart (blanks ++ text) = trimStart text :=
  List.dropWhile_append_of_pos hblanks

theorem trimStart_of_head_not_blank {text : List Char}
    (hhead : ∀ c ∈ text.head?, isBlank c = false) : trimStart text = text := by
  cases text with
  | nil => rfl
  | cons c rest => exact List.dropWhile_cons_of_neg (by simp [hhead c rfl])

theorem trimStart_cons_of_not_blank {c : Char} (hc : isBlank c = false) (rest : List Char) :
    trimStart (c :: rest) = c :: rest := by
  apply trimStart_of_head_not_blank
  rintro _ ⟨⟩
  exact hc

theorem exists_isBlankText_append_trimStart (text : List Char) :
    ∃ blanks, IsBlankText blanks ∧ text = blanks ++ trimStart text :=
  ⟨text.takeWhile isBlank, fun _ hmem => List.mem_takeWhile_imp hmem,
    (List.takeWhile_append_dropWhile ..).symm⟩

@[simp]
theorem trimStart_trimStart (text : List Char) : trimStart (trimStart text) = trimStart text :=
  List.dropWhile_idempotent isBlank text

theorem trimStart_eq_nil_iff {text : List Char} : trimStart text = [] ↔ IsBlankText text :=
  List.dropWhile_eq_nil_iff

/-- What a text with blanks in front begins with is a blank or the first of the rest. -/
theorem head_append_of_isBlankText {blanks others : List Char} {p : Char → Prop}
    (hblanks : IsBlankText blanks) (hp : ∀ c, isBlank c = true → p c)
    (hothers : ∀ c ∈ others.head?, p c) : ∀ c ∈ (blanks ++ others).head?, p c := by
  cases blanks with
  | nil => exact hothers
  | cons blank more =>
    rintro c ⟨⟩
    exact hp blank (hblanks blank List.mem_cons_self)

end MetricBridge.Text
