/-
# The three levels of a selector in writing

One equation for each way in which a level goes on, in terms of what is left only. From them it
follows how the levels hang together. A level that joins operands gives either its first operand
as it is or a join, never anything else; and where the text ends or a parenthesis closes, what the
lowest level has read is what the levels above it give.
-/

import Mathlib
import MetricBridge.Proofs.Selector.Tokens

namespace MetricBridge.Selector

open Text (Shorter IsBlankText)

/-! ### The lowest level -/

section Unary

variable {text start : List Char}

theorem plain_unary?_of_not (hstart : Text.trimStart text = start) {after : Shorter start}
    (hnot : keywordNot? start = some after) :
    plain (unary? text) =
      (plain (unary? after.1)).map fun read => (.negate read.1, read.2) := by
  subst hstart
  rw [unary?]
  simp only [unspaced, hnot]
  cases unary? after.1 <;> rfl

theorem plain_unary?_of_opening (hstart : Text.trimStart text = start)
    (hnot : keywordNot? start = none) {after : Shorter start}
    (hopening : opening? start = some after) :
    plain (unary? text) =
      (plain (either? after.1)).bind fun read =>
        (closing? read.2).map fun rest => (read.1, rest.1) := by
  subst hstart
  rw [unary?]
  simp only [unspaced, hnot, hopening]
  cases either? after.1 with
  | none => rfl
  | some read =>
    obtain ⟨inner, afterInner⟩ := read
    simp only [plain, Option.map_some, Option.bind_some]
    cases closing? afterInner.1 <;> rfl

theorem plain_unary?_of_comparison (hstart : Text.trimStart text = start)
    (hnot : keywordNot? start = none) (hopening : opening? start = none) :
    plain (unary? text) = plain (comparisonOf? start) := by
  subst hstart
  rw [unary?]
  simp only [unspaced, hnot, hopening]
  cases comparisonOf? (Text.trimStart text) <;> rfl

end Unary

/-- Leading blanks make no difference. -/
theorem plain_unary?_append_of_isBlankText {blanks : List Char} (hblanks : IsBlankText blanks)
    (text : List Char) : plain (unary? (blanks ++ text)) = plain (unary? text) := by
  have hstart := Text.trimStart_append_of_isBlankText hblanks text
  cases hnot : keywordNot? (Text.trimStart text) with
  | some after => rw [plain_unary?_of_not hstart hnot, plain_unary?_of_not rfl hnot]
  | none =>
    cases hopening : opening? (Text.trimStart text) with
    | some after =>
      rw [plain_unary?_of_opening hstart hnot hopening, plain_unary?_of_opening rfl hnot hopening]
    | none =>
      rw [plain_unary?_of_comparison hstart hnot hopening,
        plain_unary?_of_comparison rfl hnot hopening]

theorem plain_unary?_opening (text : List Char) :
    plain (unary? ('(' :: text)) =
      (plain (either? text)).bind fun read =>
        (closing? read.2).map fun rest => (read.1, rest.1) := by
  have hstart : Text.trimStart ('(' :: text) = '(' :: text :=
    Text.trimStart_cons_of_not_blank (by decide) text
  have hnot : keywordNot? ('(' :: text) = none := by
    rw [keywordNot?, if_neg (by decide)]
  have hopening : opening? ('(' :: text) = some (Shorter.tail '(' text) := rfl
  rw [plain_unary?_of_opening hstart hnot hopening]
  rfl

/-! ### The levels that join -/

theorem plain_both? (text : List Char) :
    plain (both? text) =
      (plain (unary? text)).bind fun read => plain (bothFrom? read.1 read.2) := by
  rw [both?]
  cases unary? text with
  | none => rfl
  | some read =>
    obtain ⟨left, after⟩ := read
    simp only [plain, Option.map_some, Option.bind_some]
    cases bothFrom? left after.1 <;> rfl

theorem plain_both?_append_of_isBlankText {blanks : List Char} (hblanks : IsBlankText blanks)
    (text : List Char) : plain (both? (blanks ++ text)) = plain (both? text) := by
  rw [plain_both?, plain_both?, plain_unary?_append_of_isBlankText hblanks]

theorem plain_either? (text : List Char) :
    plain (either? text) =
      (plain (both? text)).bind fun read => plain (eitherFrom? read.1 read.2) := by
  rw [either?]
  cases both? text with
  | none => rfl
  | some read =>
    obtain ⟨left, after⟩ := read
    simp only [plain, Option.map_some, Option.bind_some]
    cases eitherFrom? left after.1 <;> rfl

theorem plain_either?_append_of_isBlankText {blanks : List Char} (hblanks : IsBlankText blanks)
    (text : List Char) : plain (either? (blanks ++ text)) = plain (either? text) := by
  rw [plain_either?, plain_either?, plain_both?_append_of_isBlankText hblanks]

section Further

variable {left : Selector} {text : List Char}

theorem plain_bothFrom?_of_ends (hends : endsConjunction (Text.trimStart text) = true) :
    plain (bothFrom? left text) = some (left, Text.trimStart text) := by
  rw [bothFrom?]
  simp only [unspaced, hends, if_true]
  rfl

theorem plain_bothFrom?_of_continues (hends : endsConjunction (Text.trimStart text) = false) :
    plain (bothFrom? left text) =
      (plain (unary? (afterAnd (Text.trimStart text)).1)).bind fun read =>
        plain (bothFrom? (.both left read.1) read.2) := by
  rw [bothFrom?]
  simp only [unspaced, hends, Bool.false_eq_true, if_false]
  cases unary? (afterAnd (Text.trimStart text)).1 with
  | none => rfl
  | some read =>
    obtain ⟨right, after⟩ := read
    simp only [plain, Option.map_some, Option.bind_some]
    cases bothFrom? (.both left right) after.1 <;> rfl

theorem plain_eitherFrom?_of_none (hor : keywordOr? (Text.trimStart text) = none) :
    plain (eitherFrom? left text) = some (left, Text.trimStart text) := by
  rw [eitherFrom?]
  simp only [unspaced, hor]
  rfl

theorem plain_eitherFrom?_of_some {next : Shorter (Text.trimStart text)}
    (hor : keywordOr? (Text.trimStart text) = some next) :
    plain (eitherFrom? left text) =
      (plain (both? next.1)).bind fun read =>
        plain (eitherFrom? (.either left read.1) read.2) := by
  rw [eitherFrom?]
  simp only [unspaced, hor]
  cases both? next.1 with
  | none => rfl
  | some read =>
    obtain ⟨right, after⟩ := read
    simp only [plain, Option.map_some, Option.bind_some]
    cases eitherFrom? (.either left right) after.1 <;> rfl

/-- Further operands of `AND` are joined to the first one, or there are none. -/
theorem bothFrom?_cases {selector : Selector} {rest : List Char}
    (hread : plain (bothFrom? left text) = some (selector, rest)) :
    (selector = left ∧ rest = Text.trimStart text) ∨ ∃ a b, selector = .both a b := by
  induction hlength : text.length using Nat.strong_induction_on generalizing left text with
  | _ length ih =>
    cases hends : endsConjunction (Text.trimStart text) with
    | true =>
      rw [plain_bothFrom?_of_ends hends] at hread
      cases hread
      exact Or.inl ⟨rfl, rfl⟩
    | false =>
      right
      rw [plain_bothFrom?_of_continues hends] at hread
      obtain ⟨⟨right, after⟩, hright, hrest⟩ := Option.bind_eq_some_iff.1 hread
      have hafter := fact_of_plain hright
      have hnext := (afterAnd (Text.trimStart text)).2
      have htrim := Text.length_trimStart_le text
      rcases ih after.length (by omega) hrest rfl with ⟨rfl, -⟩ | hboth
      · exact ⟨left, right, rfl⟩
      · exact hboth

/-- Further operands of `OR` are joined to the first one, or there are none. -/
theorem eitherFrom?_cases {selector : Selector} {rest : List Char}
    (hread : plain (eitherFrom? left text) = some (selector, rest)) :
    (selector = left ∧ rest = Text.trimStart text) ∨ ∃ a b, selector = .either a b := by
  induction hlength : text.length using Nat.strong_induction_on generalizing left text with
  | _ length ih =>
    cases hor : keywordOr? (Text.trimStart text) with
    | none =>
      rw [plain_eitherFrom?_of_none hor] at hread
      cases hread
      exact Or.inl ⟨rfl, rfl⟩
    | some next =>
      right
      rw [plain_eitherFrom?_of_some hor] at hread
      obtain ⟨⟨right, after⟩, hright, hrest⟩ := Option.bind_eq_some_iff.1 hread
      have hafter := fact_of_plain hright
      have hnext := next.2
      have htrim := Text.length_trimStart_le text
      rcases ih after.length (by omega) hrest rfl with ⟨rfl, -⟩ | heither
      · exact ⟨left, right, rfl⟩
      · exact heither

end Further

/-! ### Where a selector is complete -/

/-- No further operand comes: the text ends or a parenthesis closes. -/
def Closes (text : List Char) : Prop :=
  Text.trimStart text = [] ∨ ∃ rest, Text.trimStart text = ')' :: rest

theorem endsConjunction_of_closes {text : List Char} (hcloses : Closes text) :
    endsConjunction (Text.trimStart text) = true := by
  rcases hcloses with hnil | ⟨rest, hcons⟩
  · rw [hnil]
    rfl
  · rw [hcons]
    rfl

theorem keywordOr?_of_closes {text : List Char} (hcloses : Closes text) :
    keywordOr? (Text.trimStart text) = none := by
  rcases hcloses with hnil | ⟨rest, hcons⟩
  · rw [hnil]
    rfl
  · rw [hcons, keywordOr?, if_neg (by decide)]

/-- What the lowest level reads is read by the levels above it where it is complete. -/
theorem plain_either?_of_closes {text after : List Char} {selector : Selector}
    (hread : plain (unary? text) = some (selector, after)) (hcloses : Closes after) :
    plain (either? text) = some (selector, Text.trimStart after) := by
  have hboth : plain (both? text) = some (selector, Text.trimStart after) := by
    rw [plain_both?, hread, Option.bind_some,
      plain_bothFrom?_of_ends (endsConjunction_of_closes hcloses)]
  have hor : keywordOr? (Text.trimStart (Text.trimStart after)) = none := by
    rw [Text.trimStart_trimStart]
    exact keywordOr?_of_closes hcloses
  rw [plain_either?, hboth, Option.bind_some, plain_eitherFrom?_of_none hor,
    Text.trimStart_trimStart]

/-- A comparison that the highest level gives was read by the lowest one. -/
theorem plain_unary?_of_either? {text rest : List Char} {field : String} {comparison : Comparison}
    {operand : Operand}
    (hread : plain (either? text) = some (.compare field comparison operand, rest)) :
    ∃ after, plain (unary? text) = some (.compare field comparison operand, after) ∧
      rest = Text.trimStart after := by
  rw [plain_either?] at hread
  obtain ⟨⟨left, afterBoth⟩, hboth, heither⟩ := Option.bind_eq_some_iff.1 hread
  rw [plain_both?] at hboth
  obtain ⟨⟨first, after⟩, hunary, hfrom⟩ := Option.bind_eq_some_iff.1 hboth
  rcases eitherFrom?_cases heither with ⟨rfl, hrest⟩ | ⟨_, _, heq⟩
  · rcases bothFrom?_cases hfrom with ⟨rfl, hafter⟩ | ⟨_, _, heq⟩
    · refine ⟨after, hunary, ?_⟩
      rw [hrest, hafter, Text.trimStart_trimStart]
    · cases heq
  · cases heq

theorem read_eq_ok_iff {text : String} {selector : Selector} :
    read text = .ok selector ↔
      ∃ rest, plain (either? text.toList) = some (selector, rest) ∧ Text.trimStart rest = [] := by
  unfold read
  cases either? text.toList with
  | none => simp [plain]
  | some found =>
    obtain ⟨held, left⟩ := found
    simp only [plain, Option.map_some, Option.some.injEq, Prod.mk.injEq]
    split
    next hend =>
      constructor
      · rintro ⟨⟩
        exact ⟨left.1, ⟨rfl, rfl⟩, hend⟩
      · rintro ⟨_, ⟨rfl, rfl⟩, -⟩
        rfl
    next hmore =>
      simp only [reduceCtorEq, false_iff]
      rintro ⟨_, ⟨rfl, rfl⟩, hend⟩
      exact hmore hend

theorem eq_invalidFilter_of_read {text : String} {fault : Fault}
    (hread : read text = .error fault) : fault = .invalidFilter := by
  unfold read at hread
  split at hread
  next =>
    cases hread
    rfl
  next =>
    split at hread <;> cases hread
    rfl

/-- A text of which not even a first operand can be read is no selector. -/
theorem read_eq_error_of_unary? {text : String} (hunary : plain (unary? text.toList) = none) :
    read text = .error .invalidFilter := by
  cases hread : read text with
  | error fault => rw [eq_invalidFilter_of_read hread]
  | ok selector =>
    obtain ⟨rest, heither, -⟩ := read_eq_ok_iff.1 hread
    rw [plain_either?, plain_both?, hunary] at heither
    cases heither

end MetricBridge.Selector
