/-
# Words between blanks and colons

The value of an option is stripped before it is looked at: blanks at both ends go, then one colon
on each side, then blanks again. What goes is a wrapping of blanks with at most one colon among
them; what is left may still begin or end with a colon, if there were two.

Words that begin and end with other characters are found again between any two wrappings. If there
are more colons around them, stripping takes one on each side and leaves the others.
-/

import Mathlib
import MetricBridge.Proofs.Text.Blank
import MetricBridge.Window.Moment

namespace MetricBridge.Window

open Text (IsBlankText)

/-! ### Wrappings -/

/-- Blanks, with at most so many colons among them. -/
structure IsWrapping (most : Nat) (text : List Char) : Prop where
  loose : ∀ c ∈ text, Text.isBlank c = true ∨ c = ':'
  count_le : text.count ':' ≤ most

theorem isWrapping_of_isBlankText {blanks : List Char} (hblanks : IsBlankText blanks)
    (most : Nat) : IsWrapping most blanks where
  loose c hmem := Or.inl (hblanks c hmem)
  count_le := by
    have hnone : ':' ∉ blanks := fun hmem => absurd (hblanks ':' hmem) (by decide)
    rw [List.count_eq_zero_of_not_mem hnone]
    exact Nat.zero_le most

theorem isWrapping_colon : IsWrapping 1 [':'] :=
  ⟨by simp, by simp⟩

namespace IsWrapping

variable {most more : Nat} {text after : List Char}

theorem append (htext : IsWrapping most text) (hafter : IsWrapping more after) :
    IsWrapping (most + more) (text ++ after) where
  loose c hmem := (List.mem_append.1 hmem).elim (htext.loose c) (hafter.loose c)
  count_le := by
    rw [List.count_append]
    exact Nat.add_le_add htext.count_le hafter.count_le

theorem reverse (htext : IsWrapping most text) : IsWrapping most text.reverse where
  loose c hmem := htext.loose c (List.mem_reverse.1 hmem)
  count_le := by
    rw [List.count_reverse]
    exact htext.count_le

theorem mono (htext : IsWrapping most text) (hle : most ≤ more) : IsWrapping more text :=
  ⟨htext.loose, htext.count_le.trans hle⟩

theorem trimStart (htext : IsWrapping most text) : IsWrapping most (Text.trimStart text) where
  loose c hmem := htext.loose c ((List.dropWhile_suffix _).mem hmem)
  count_le := ((List.dropWhile_suffix _).sublist.count_le _).trans htext.count_le

/-- Without its colons a wrapping is blank. -/
theorem isBlankText (htext : IsWrapping 0 text) : IsBlankText text := by
  intro c hmem
  rcases htext.loose c hmem with hblank | rfl
  · exact hblank
  · have hpos := List.count_pos_iff.2 hmem
    have hcount := htext.count_le
    omega

/-- What a wrapping begins with, after its blanks, is a colon. -/
theorem dropColon_trimStart (htext : IsWrapping (most + 1) text) :
    IsWrapping most (dropColon (Text.trimStart text)) := by
  have htrimmed := htext.trimStart
  cases hcons : Text.trimStart text with
  | nil => exact isWrapping_of_isBlankText Text.isBlankText_nil most
  | cons c rest =>
    rw [hcons] at htrimmed
    have hcolon : c = ':' := by
      refine (htrimmed.loose c List.mem_cons_self).resolve_left ?_
      rw [Text.head_trimStart_not_blank hcons]
      exact Bool.false_ne_true
    subst hcolon
    have hcount := htrimmed.count_le
    rw [List.count_cons_self] at hcount
    exact ⟨fun d hmem => htrimmed.loose d (List.mem_cons_of_mem _ hmem),
      Nat.le_of_succ_le_succ hcount⟩

end IsWrapping

/-! ### Stripping -/

/-- What stripping leaves of the front of a text. -/
def stripFront (text : List Char) : List Char :=
  Text.trimStart (dropColon (Text.trimStart text))

theorem IsWrapping.stripFront {most : Nat} {text : List Char} (htext : IsWrapping (most + 1) text) :
    IsWrapping most (stripFront text) :=
  htext.dropColon_trimStart.trimStart

theorem IsWrapping.stripFront_eq_nil {text : List Char} (htext : IsWrapping 1 text) :
    Window.stripFront text = [] :=
  Text.trimStart_eq_nil_iff.2 htext.dropColon_trimStart.isBlankText

/-- The text begins with a character that is not stripped. -/
def BeginsTight (text : List Char) : Prop :=
  ∃ c rest, text = c :: rest ∧ Text.isBlank c = false ∧ c ≠ ':'

/-- Words that stripping leaves as they are. -/
structure IsTight (words : List Char) : Prop where
  first : BeginsTight words
  last : BeginsTight words.reverse

/-- Letters are not stripped. -/
theorem beginsTight_of_letters {word : List Char} (hsome : word ≠ [])
    (hletters : ∀ c ∈ word, c.toLower.isLower = true) : BeginsTight word := by
  obtain ⟨c, rest, rfl⟩ := List.exists_cons_of_ne_nil hsome
  have hlower := hletters c List.mem_cons_self
  refine ⟨c, rest, rfl, Text.not_isBlank_of_isLower hlower, ?_⟩
  rintro rfl
  cases hlower

theorem isTight_of_letters {word : List Char} (hsome : word ≠ [])
    (hletters : ∀ c ∈ word, c.toLower.isLower = true) : IsTight word where
  first := beginsTight_of_letters hsome hletters
  last := beginsTight_of_letters (by simpa using hsome) fun c hc =>
    hletters c (List.mem_reverse.1 hc)

theorem BeginsTight.append {text : List Char} (htight : BeginsTight text) (after : List Char) :
    BeginsTight (text ++ after) := by
  obtain ⟨c, rest, rfl, hblank, hcolon⟩ := htight
  exact ⟨c, rest ++ after, rfl, hblank, hcolon⟩

theorem trimStart_append_of_beginsTight (front : List Char) {core : List Char}
    (htight : BeginsTight core) :
    Text.trimStart (front ++ core) = Text.trimStart front ++ core := by
  obtain ⟨c, rest, rfl, hblank, -⟩ := htight
  induction front with
  | nil => exact Text.trimStart_cons_of_not_blank hblank rest
  | cons d others ih =>
    by_cases hd : Text.isBlank d = true
    · simpa [Text.trimStart, hd] using ih
    · simp [Text.trimStart, hd]

theorem dropColon_append_of_beginsTight (front : List Char) {core : List Char}
    (htight : BeginsTight core) : dropColon (front ++ core) = dropColon front ++ core := by
  obtain ⟨c, rest, rfl, -, hcolon⟩ := htight
  cases front with
  | nil => simp [dropColon, hcolon]
  | cons d others =>
    by_cases hd : d = ':' <;> simp [dropColon, hd]

theorem trimEnd_eq (text : List Char) :
    Text.trimEnd text = (Text.trimStart text.reverse).reverse :=
  rfl

section Around

variable {core : List Char} (front back : List Char)

theorem trim_around (htight : IsTight core) :
    Text.trim (front ++ core ++ back) =
      Text.trimStart front ++ core ++ (Text.trimStart back.reverse).reverse := by
  rw [Text.trim, List.append_assoc, trimStart_append_of_beginsTight _ (htight.first.append back),
    trimEnd_eq, List.reverse_append, List.reverse_append, List.append_assoc,
    trimStart_append_of_beginsTight _ (htight.last.append _)]
  simp

/-- Tight words are left, with what is left of the text in front of them and behind them. -/
theorem bare_around (htight : IsTight core) :
    bare (front ++ core ++ back) =
      stripFront front ++ core ++ (stripFront back.reverse).reverse := by
  have hfront : dropColon (Text.trim (front ++ core ++ back)) =
      dropColon (Text.trimStart front) ++ core ++ (Text.trimStart back.reverse).reverse := by
    rw [trim_around _ _ htight, List.append_assoc,
      dropColon_append_of_beginsTight _ (htight.first.append _), List.append_assoc]
  have hback : (dropColon (dropColon (Text.trim (front ++ core ++ back))).reverse).reverse =
      dropColon (Text.trimStart front) ++ core ++
        (dropColon (Text.trimStart back.reverse)).reverse := by
    rw [hfront, List.reverse_append, List.reverse_append, List.reverse_reverse,
      dropColon_append_of_beginsTight _ (htight.last.append _)]
    simp
  unfold bare
  simp only [hback]
  rw [trim_around _ _ htight, List.reverse_reverse]
  rfl

end Around

/-! ### Wrapped words -/

/-- The words stand between two wrappings with at most one colon each. -/
def Wraps (words text : List Char) : Prop :=
  ∃ before after, IsWrapping 1 before ∧ IsWrapping 1 after ∧ text = before ++ words ++ after

theorem bare_eq_of_wraps {words text : List Char} (hwraps : Wraps words text)
    (htight : IsTight words) : bare text = words := by
  obtain ⟨before, after, hbefore, hafter, rfl⟩ := hwraps
  rw [bare_around _ _ htight, hbefore.stripFront_eq_nil, hafter.reverse.stripFront_eq_nil]
  simp

theorem exists_append_trim (text : List Char) :
    ∃ before after, IsBlankText before ∧ IsBlankText after ∧
      text = before ++ Text.trim text ++ after := by
  obtain ⟨before, hbefore, hfront⟩ := Text.exists_isBlankText_append_trimStart text
  obtain ⟨after, hafter, hback⟩ :=
    Text.exists_isBlankText_append_trimStart (Text.trimStart text).reverse
  refine ⟨before, after.reverse, hbefore, fun c hmem => hafter c (List.mem_reverse.1 hmem), ?_⟩
  have hbehind : Text.trimStart text = Text.trim text ++ after.reverse := by
    rw [Text.trim, trimEnd_eq, ← List.reverse_append, ← hback, List.reverse_reverse]
  rw [List.append_assoc, ← hbehind]
  exact hfront

theorem exists_append_dropColon (text : List Char) :
    ∃ colon, IsWrapping 1 colon ∧ text = colon ++ dropColon text := by
  unfold dropColon
  split
  next rest => exact ⟨[':'], isWrapping_colon, rfl⟩
  next => exact ⟨[], isWrapping_of_isBlankText Text.isBlankText_nil 1, rfl⟩

/-- What is stripped are two wrappings. -/
theorem wraps_bare (text : List Char) : Wraps (bare text) text := by
  obtain ⟨before, after, hbefore, hafter, htext⟩ := exists_append_trim text
  obtain ⟨opening, hopening, hinner⟩ := exists_append_dropColon (Text.trim text)
  set inner := dropColon (Text.trim text) with hinnerDef
  obtain ⟨closing, hclosing, hreversed⟩ := exists_append_dropColon inner.reverse
  set core := (dropColon inner.reverse).reverse with hcoreDef
  obtain ⟨first, last, hfirst, hlast, hcore⟩ := exists_append_trim core
  have hclosed : inner = core ++ closing.reverse := by
    rw [hcoreDef, ← List.reverse_append, ← hreversed, List.reverse_reverse]
  have hbare : bare text = Text.trim core := rfl
  refine ⟨before ++ opening ++ first, last ++ closing.reverse ++ after, ?_, ?_, ?_⟩
  · exact ((isWrapping_of_isBlankText hbefore 0).append hopening).append
      (isWrapping_of_isBlankText hfirst 0)
  · exact ((isWrapping_of_isBlankText hlast 0).append hclosing.reverse).append
      (isWrapping_of_isBlankText hafter 0)
  · rw [hbare]
    calc text
        = before ++ Text.trim text ++ after := htext
      _ = before ++ (opening ++ (core ++ closing.reverse)) ++ after := by rw [hinner, hclosed]
      _ = before ++ (opening ++ ((first ++ Text.trim core ++ last) ++ closing.reverse)) ++
            after := by rw [← hcore]
      _ = _ := by simp

end MetricBridge.Window
