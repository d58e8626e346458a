/-
# Patterns that are names

A character without a meaning of its own in a pattern stands for itself, so a pattern of such
characters fits the one name that is written in the same way. With `*` and `?` a pattern
still fits the name written like it, besides others; with an opening brace it need not even do
that.
-/

import Mathlib
import MetricBridge.Proofs.Text.Lines
import MetricBridge.Store.Glob

namespace MetricBridge.Glob

/-- A name fits a pattern piece by piece. -/
theorem fits_iff_forall₂ {pattern name : List Char} :
    fits pattern name = true ↔
      List.Forall₂ (fun p s => segmentFits p s = true) (Text.pieces '.' pattern)
        (Text.pieces '.' name) := by
  rw [List.forall₂_iff_zip, fits, Bool.and_eq_true, decide_eq_true_eq, List.all_eq_true]
  simp only [Prod.forall]

/-- No character of the text has a meaning of its own in a pattern. -/
def IsLiteral (text : List Char) : Prop :=
  ∀ c ∈ text, c ≠ '*' ∧ c ≠ '?' ∧ c ≠ '\x7b'

theorem segmentFits_iff_of_isLiteral {pattern segment : List Char} (hliteral : IsLiteral pattern) :
    segmentFits pattern segment = true ↔ segment = pattern := by
  induction pattern generalizing segment with
  | nil => rw [segmentFits, List.isEmpty_iff]
  | cons c rest ih =>
    obtain ⟨⟨hstar, hmark, hbrace⟩, hrest⟩ := List.forall_mem_cons.1 hliteral
    cases segment with
    | nil =>
      rw [segmentFits, if_neg hstar, if_neg hmark, if_neg hbrace]
      simp
    | cons d others =>
      rw [segmentFits, if_neg hstar, if_neg hmark, if_neg hbrace]
      simp only [Bool.and_eq_true, decide_eq_true_eq, ih hrest, List.cons.injEq]
      exact and_congr_left' eq_comm

theorem forall₂_segmentFits_iff {patterns segments : List (List Char)}
    (hliteral : ∀ pattern ∈ patterns, IsLiteral pattern) :
    List.Forall₂ (fun p s => segmentFits p s = true) patterns segments ↔ segments = patterns := by
  induction patterns generalizing segments with
  | nil => simp
  | cons pattern rest ih =>
    obtain ⟨hpattern, hrest⟩ := List.forall_mem_cons.1 hliteral
    cases segments with
    | nil => simp
    | cons segment others =>
      rw [List.forall₂_cons, segmentFits_iff_of_isLiteral hpattern, ih hrest, List.cons.injEq]

theorem fits_iff_of_isLiteral {pattern name : List Char} (hliteral : IsLiteral pattern) :
    fits pattern name = true ↔ name = pattern := by
  have hpieces : ∀ piece ∈ Text.pieces '.' pattern, IsLiteral piece := by
    intro piece hpiece c hc
    exact hliteral c ((Text.infix_of_mem_pieces hpiece).subset hc)
  rw [fits_iff_forall₂, forall₂_segmentFits_iff hpieces, (Text.pieces_injective '.').eq_iff]

theorem mem_suffixes_self (text : List Char) : text ∈ suffixes text := by
  cases text <;> simp [suffixes]

theorem segmentFits_self {pattern : List Char} (hbrace : '\x7b' ∉ pattern) :
    segmentFits pattern pattern = true := by
  induction pattern with
  | nil => rw [segmentFits, List.isEmpty_nil]
  | cons c rest ih =>
    have hself := ih (List.not_mem_of_not_mem_cons hbrace)
    have hc : c ≠ '\x7b' := (List.ne_of_not_mem_cons hbrace).symm
    rw [segmentFits]
    by_cases hstar : c = '*'
    · rw [if_pos hstar, List.any_eq_true]
      refine ⟨rest, ?_, hself⟩
      rw [suffixes]
      exact List.mem_cons_of_mem _ (mem_suffixes_self rest)
    · rw [if_neg hstar]
      by_cases hmark : c = '?'
      · rw [if_pos hmark]
        exact hself
      · rw [if_neg hmark, if_neg hc]
        simpa using hself

theorem fits_self {name : List Char} (hbrace : '\x7b' ∉ name) : fits name name = true := by
  rw [fits_iff_forall₂, List.forall₂_same]
  intro piece hpiece
  apply segmentFits_self
  intro hmem
  exact hbrace ((Text.infix_of_mem_pieces hpiece).subset hmem)

end MetricBridge.Glob
