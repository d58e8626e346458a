/-
# Texts put together are cut where they were joined

A text in which the separator does not occur is one piece, and a separator behind it begins
the next piece. So texts that are each closed by a line feed, and have none of their
own, are the lines of what they make up.

The other way round, the pieces of a text joined by the separator are the text again, so a text
is determined by its pieces.
-/

import Mathlib
import MetricBridge.Text.Lines

namespace MetricBridge.Text

theorem pieces_of_not_mem {separator : Char} {text : List Char} (hfree : separator ∉ text) :
    pieces separator text = [text] := by
  induction text with
  | nil => rfl
  | cons c rest ih =>
    have hc : c ≠ separator := (List.ne_of_not_mem_cons hfree).symm
    rw [pieces, if_neg hc, ih (List.not_mem_of_not_mem_cons hfree)]

theorem pieces_append {separator : Char} {text : List Char} (hfree : separator ∉ text)
    (rest : List Char) :
    pieces separator (text ++ separator :: rest) = text :: pieces separator rest := by
  induction text with
  | nil => rw [List.nil_append, pieces, if_pos rfl]
  | cons c others ih =>
    have hc : c ≠ separator := (List.ne_of_not_mem_cons hfree).symm
    rw [List.cons_append, pieces, if_neg hc, ih (List.not_mem_of_not_mem_cons hfree)]

theorem pieces_ne_nil (separator : Char) (text : List Char) : pieces separator text ≠ [] := by
  fun_cases pieces separator text <;> simp

/-- The pieces are those of the library's `splitOn`, so its laws hold of them. -/
theorem pieces_eq_splitOn (separator : Char) (text : List Char) :
    pieces separator text = text.splitOn separator := by
  induction text with
  | nil => rfl
  | cons c rest ih =>
    rw [List.splitOn] at ih ⊢
    rw [List.splitOnP_cons_eq_if_modifyHead, pieces]
    by_cases hc : c = separator
    · simp [hc, ih]
    · rw [if_neg hc, if_neg (by simpa using hc), ← ih]
      cases hpieces : pieces separator rest with
      | nil => exact absurd hpieces (pieces_ne_nil separator rest)
      | cons piece others => rfl

theorem intercalate_pieces (separator : Char) (text : List Char) :
    [separator].intercalate (pieces separator text) = text := by
  rw [pieces_eq_splitOn, List.intercalate_splitOn]

theorem pieces_intercalate {separator : Char} {texts : List (List Char)}
    (hfree : ∀ text ∈ texts, separator ∉ text) (hsome : texts ≠ []) :
    pieces separator ([separator].intercalate texts) = texts := by
  rw [pieces_eq_splitOn, List.splitOn_intercalate separator hfree hsome]

theorem pieces_injective (separator : Char) : Function.Injective (pieces separator) := by
  intro a b hpieces
  rw [← intercalate_pieces separator a, hpieces, intercalate_pieces]

theorem infix_of_mem_pieces {separator : Char} {text piece : List Char}
    (hmem : piece ∈ pieces separator text) : piece <:+: text := by
  obtain ⟨i, hi⟩ := List.mem_iff_getElem?.1 hmem
  have hspersed : piece ∈ (pieces separator text).intersperse [separator] :=
    List.mem_of_getElem? ((List.getElem?_intersperse_two_mul ..).trans hi)
  have hinfix : piece <:+: [separator].intercalate (pieces separator text) :=
    List.infix_of_mem_flatten hspersed
  rwa [intercalate_pieces] at hinfix

theorem separator_not_mem_of_mem_pieces {separator : Char} {text piece : List Char}
    (hmem : piece ∈ pieces separator text) : separator ∉ piece := by
  fun_induction pieces separator text generalizing piece with
  | case1 => simp [List.mem_singleton.1 hmem]
  | case2 rest ih =>
    rcases List.mem_cons.1 hmem with rfl | hmem
    · exact List.not_mem_nil
    · exact ih hmem
  | case3 c rest _ hnone => exact absurd hnone (pieces_ne_nil separator rest)
  | case4 c rest hc first others hsome ih =>
    rw [hsome] at ih
    rcases List.mem_cons.1 hmem with rfl | hmem
    · exact List.not_mem_cons_of_ne_of_not_mem (Ne.symm hc) (ih List.mem_cons_self)
    · exact ih (List.mem_cons_of_mem _ hmem)

/-- A character of joined texts is the separator or stands in one of them. -/
theorem mem_of_mem_intercalate {separator c : Char} {texts : List (List Char)}
    (hmem : c ∈ [separator].intercalate texts) : c = separator ∨ ∃ text ∈ texts, c ∈ text := by
  induction texts with
  | nil => simp at hmem
  | cons text others ih =>
    cases others with
    | nil =>
      rw [List.intercalate_singleton] at hmem
      exact Or.inr ⟨text, List.mem_cons_self, hmem⟩
    | cons next more =>
      rw [List.intercalate_cons_cons] at hmem
      grind

/-- Closing texts with the separator leaves an empty piece behind the last one. -/
theorem pieces_flatMap {separator : Char} {texts : List (List Char)}
    (hfree : ∀ text ∈ texts, separator ∉ text) :
    pieces separator (texts.flatMap (· ++ [separator])) = texts ++ [[]] := by
  induction texts with
  | nil => rfl
  | cons text others ih =>
    have hothers := ih fun other hmem => hfree other (List.mem_cons_of_mem _ hmem)
    rw [List.flatMap_cons, List.append_assoc, List.singleton_append,
      pieces_append (hfree text List.mem_cons_self), hothers, List.cons_append]

theorem withoutReturn_of_not_mem {line : List Char} (hfree : '\r' ∉ line) :
    withoutReturn line = line := by
  rw [withoutReturn, if_neg]
  exact fun hlast => hfree (List.mem_of_getLast? hlast)

/-- Texts that are closed by line feeds are the lines of the whole, unless carriage returns stand
before the line feeds. -/
theorem lines_flatMap {texts : List (List Char)}
    (hfree : ∀ text ∈ texts, '\n' ∉ text ∧ '\r' ∉ text) :
    lines (texts.flatMap (· ++ ['\n'])) = texts := by
  have hlines : texts.map withoutReturn = texts.map id :=
    List.map_congr_left fun text hmem => withoutReturn_of_not_mem (hfree text hmem).2
  rw [lines, pieces_flatMap fun text hmem => (hfree text hmem).1]
  simp [hlines]

end MetricBridge.Text
