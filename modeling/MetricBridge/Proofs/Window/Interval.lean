/-
# What lies in a window

A window leaves its start out and includes its end. A whole second is in it exactly if it is
one of the seconds after that of the start and up to that of the end; neither a fraction of a
second nor a leap second at the ends makes a difference.
-/

import Mathlib
import MetricBridge.Proofs.Time.Order
import MetricBridge.Window.Interval

namespace MetricBridge.Interval

open Time (Instant)

theorem contains_iff {window : Interval} {time : Instant} :
    window.contains time = true ↔
      (∀ start ∈ window.start, start < time) ∧ time ≤ window.stop := by
  rw [contains, Bool.and_eq_true, decide_eq_true_eq, Option.all_eq_true]
  simp only [decide_eq_true_eq]
  exact Iff.rfl

theorem isEmpty_iff {window : Interval} :
    window.isEmpty = true ↔ ∃ start, window.start = some start ∧ window.stop ≤ start := by
  rw [isEmpty, Option.any_eq_true]
  simp only [decide_eq_true_eq]

theorem contains_some_iff {start stop time : Instant} :
    contains ⟨some start, stop⟩ time = true ↔ start < time ∧ time ≤ stop := by
  rw [contains, Option.all_some, Bool.and_eq_true, decide_eq_true_eq, decide_eq_true_eq]

theorem isEmpty_some_eq_false_iff {start stop : Instant} :
    isEmpty ⟨some start, stop⟩ = false ↔ start < stop := by
  rw [isEmpty, Option.any_some, decide_eq_false_iff_not, not_le]

/-- Nothing lies in an empty window. -/
theorem contains_eq_false_of_isEmpty {window : Interval} (hempty : window.isEmpty = true)
    (time : Instant) : window.contains time = false := by
  obtain ⟨start, hstart, hle⟩ := (Option.any_eq_true _ _).1 hempty
  rw [decide_eq_true_eq] at hle
  rw [contains, hstart, Option.all_some, Bool.and_eq_false_iff, decide_eq_false_iff_not,
    decide_eq_false_iff_not, not_lt, not_le]
  rcases le_or_gt time start with hbefore | hafter
  · exact Or.inl hbefore
  · exact Or.inr (lt_of_le_of_lt hle hafter)

/-- A whole second lies in a window exactly if it is one of the window's seconds. -/
theorem contains_wholeSecond_iff {window : Interval} {time : Instant} (hwhole : time.nano = 0) :
    window.contains time = true ↔
      (∀ start ∈ window.start, start.second < time.second) ∧
        time.second ≤ window.stop.second := by
  rw [contains, Bool.and_eq_true, decide_eq_true_eq, Instant.le_of_nano_eq_zero hwhole,
    Option.all_eq_true]
  simp only [decide_eq_true_eq, Instant.lt_of_nano_eq_zero hwhole]
  exact Iff.rfl

end MetricBridge.Interval
