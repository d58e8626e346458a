/-
# The parts of a selector in writing

Each part is read off the front of a text, and each reader is told here by what it leaves: a
quoted text by the characters between its quotes, a comparison by its field, sign and other
side, a parenthesis by the text behind it. A quoted text may hold anything; only its own quote
and the backslash need a backslash before them there.

Where a part ends depends on what follows. A field ends before a blank or a sign, since no blank is
a character of a field.
-/

import Mathlib
import MetricBridge.Proofs.Text.Blank
import MetricBridge.Selector.Read

namespace MetricBridge.Selector

open Text (Shorter IsBlankText)

/-- What was read and what is left, without the fact about the length of what is left. -/
def plain {fact : List Char → Prop}
    (result : Option (Selector × { rest : List Char // fact rest })) :
    Option (Selector × List Char) :=
  result.map fun (selector, rest) => (selector, rest.1)

theorem fact_of_plain {fact : List Char → Prop}
    {result : Option (Selector × { rest : List Char // fact rest })} {selector : Selector}
    {rest : List Char} (hplain : plain result = some (selector, rest)) : fact rest := by
  obtain ⟨⟨held, left⟩, -, heq⟩ := Option.map_eq_some_iff.1 hplain
  cases heq
  exact left.2

/-! ### Keywords -/

/-- The two keywords with a reader of their own are read like any other. -/
theorem map_val_keywordOr? (text : List Char) :
    (keywordOr? text).map Subtype.val = (keyword? ['O', 'R'] text).map Subtype.val := by
  cases text with
  | nil => rfl
  | cons c rest =>
    rw [keywordOr?, keyword?]
    split <;> simp [Option.map_map, Function.comp_def, Text.Within.behind, Text.Within.widen]

theorem map_val_keywordNot? (text : List Char) :
    (keywordNot? text).map Subtype.val = (keyword? ['N', 'O', 'T'] text).map Subtype.val := by
  cases text with
  | nil => rfl
  | cons c rest =>
    rw [keywordNot?, keyword?]
    split <;> simp [Option.map_map, Function.comp_def, Text.Within.behind, Text.Within.widen]

theorem keywordOr?_eq_none_iff {text : List Char} :
    keywordOr? text = none ↔ keyword? ['O', 'R'] text = none := by
  rw [← Option.map_eq_none_iff, map_val_keywordOr?, Option.map_eq_none_iff]

theorem keywordNot?_eq_none_iff {text : List Char} :
    keywordNot? text = none ↔ keyword? ['N', 'O', 'T'] text = none := by
  rw [← Option.map_eq_none_iff, map_val_keywordNot?, Option.map_eq_none_iff]

theorem val_afterAnd_of_none {text : List Char} (hnone : keyword? ['A', 'N', 'D'] text = none) :
    (afterAnd text).1 = text := by
  rw [afterAnd, hnone, Option.getD_none]
  rfl

/-! ### Quoted texts -/

/-- The characters between which a text may stand. -/
def IsQuote (c : Char) : Prop :=
  c = '"' ∨ c = '\x27'

theorem not_blank_of_isQuote {c : Char} (hquote : IsQuote c) : Text.isBlank c = false := by
  rcases hquote with rfl | rfl <;> decide

/-- What stands between two quotes, and the text that it says: a backslash makes the next character
an ordinary one, and any other character but the quote stands for itself. -/
inductive Quotes (quote : Char) : (body content : List Char) → Prop
  | nil : Quotes quote [] []
  | ordinary {c : Char} {body content : List Char} (hquote : c ≠ quote) (hbackslash : c ≠ '\\')
      (hbody : Quotes quote body content) : Quotes quote (c :: body) (c :: content)
  | escaped {c : Char} {body content : List Char} (hbody : Quotes quote body content) :
      Quotes quote ('\\' :: c :: body) (c :: content)

/-- A text in which nothing has to be escaped stands for itself. -/
theorem quotes_self {quote : Char} {text : List Char}
    (hplain : ∀ c ∈ text, c ≠ quote ∧ c ≠ '\\') : Quotes quote text text := by
  induction text with
  | nil => exact Quotes.nil
  | cons c others ih =>
    obtain ⟨⟨hquote, hbackslash⟩, hothers⟩ := List.forall_mem_cons.1 hplain
    exact (ih hothers).ordinary hquote hbackslash

theorem quotedText?_of_quotes {quote : Char} {body content : List Char} (hquote : quote ≠ '\\')
    (hquotes : Quotes quote body content) (after : List Char) :
    quotedText? quote (body ++ quote :: after) = some (content, after) := by
  induction hquotes with
  | nil =>
    rw [List.nil_append, quotedText?, if_pos rfl]
    · exact fun heq => absurd heq hquote
    · exact fun _ _ heq => absurd heq hquote
  | ordinary hc hbackslash _ ih =>
    rw [List.cons_append, quotedText?, if_neg hc, ih]
    · rfl
    · exact fun heq => absurd heq hbackslash
    · exact fun _ _ heq => absurd heq hbackslash
  | escaped _ ih =>
    rw [List.cons_append, List.cons_append, quotedText?, ih]
    rfl

theorem quotes_of_quotedText? {quote : Char} {text content after : List Char}
    (hread : quotedText? quote text = some (content, after)) :
    ∃ body, text = body ++ quote :: after ∧ Quotes quote body content := by
  fun_induction quotedText? quote text generalizing content after with
  | case1 => cases hread
  | case2 => cases hread
  | case3 c rest ih =>
    obtain ⟨⟨inner, final⟩, hinner, heq⟩ := Option.map_eq_some_iff.1 hread
    cases heq
    obtain ⟨body, rfl, hbody⟩ := ih hinner
    exact ⟨_, rfl, hbody.escaped⟩
  | case4 rest =>
    cases hread
    exact ⟨[], rfl, Quotes.nil⟩
  | case5 c rest _ hsome hc ih =>
    obtain ⟨⟨inner, final⟩, hinner, heq⟩ := Option.map_eq_some_iff.1 hread
    cases heq
    obtain ⟨body, rfl, hbody⟩ := ih hinner
    -- A backslash with a character behind it would have been read as an escape.
    have hbackslash : c ≠ '\\' := by
      rintro rfl
      cases body with
      | nil => exact hsome _ _ rfl rfl
      | cons d others => exact hsome _ _ rfl rfl
    exact ⟨_, rfl, hbody.ordinary hc hbackslash⟩

theorem operand?_of_quotes {quote : Char} (hquote : IsQuote quote) {body content : List Char}
    (hquotes : Quotes quote body content) (rest : List Char) :
    operand? (quote :: body ++ quote :: rest) = some (.text (String.ofList content), rest) := by
  have hbackslash : quote ≠ '\\' := by
    rcases hquote with rfl | rfl <;> decide
  have hor : quote = '"' ∨ quote = '\x27' := hquote
  rw [List.cons_append, operand?, if_pos hor, quotedText?_of_quotes hbackslash hquotes]
  rfl

theorem quotes_of_operand? {text rest : List Char} {content : String}
    (hread : operand? text = some (.text content, rest)) :
    ∃ quote body, IsQuote quote ∧ text = quote :: body ++ quote :: rest ∧
      Quotes quote body content.toList := by
  unfold operand? at hread
  split at hread
  next => cases hread
  next c after =>
    split at hread
    next hquote =>
      obtain ⟨⟨inner, final⟩, hinner, heq⟩ := Option.map_eq_some_iff.1 hread
      cases heq
      obtain ⟨body, rfl, hbody⟩ := quotes_of_quotedText? hinner
      exact ⟨c, body, hquote, rfl, by rwa [String.toList_ofList]⟩
    next =>
      obtain ⟨_, _, heq⟩ := Option.map_eq_some_iff.1 hread
      cases heq

/-! ### Comparisons -/

theorem isFieldChar_of_isBlank {c : Char} (hblank : Text.isBlank c = true) :
    isFieldChar c = false :=
  Text.eq_false_of_isBlank (by decide +kernel) hblank

/-- A run of field characters is read as a whole if no further one follows. -/
theorem span_isFieldChar {field rest : List Char} (hfield : ∀ c ∈ field, isFieldChar c = true)
    (hrest : ∀ c ∈ rest.head?, isFieldChar c = false) :
    (field ++ rest).takeWhile isFieldChar = field ∧
      (field ++ rest).dropWhile isFieldChar = rest := by
  rw [List.takeWhile_append_of_pos hfield, List.dropWhile_append_of_pos hfield]
  cases rest with
  | nil => exact ⟨List.append_nil _, rfl⟩
  | cons c others =>
    have hc := hrest c rfl
    rw [List.takeWhile_cons_of_neg (by simp [hc]), List.dropWhile_cons_of_neg (by simp [hc])]
    exact ⟨List.append_nil _, rfl⟩

/-- A comparison is a field, a sign and the other side, with blanks before the latter two. -/
theorem plain_comparisonOf?_eq_some_iff {text rest : List Char} {selector : Selector} :
    plain (comparisonOf? text) = some (selector, rest) ↔
      text.takeWhile isFieldChar ≠ [] ∧ ∃ comparison afterSign operand,
        comparison? (Text.trimStart (text.dropWhile isFieldChar)) = some (comparison, afterSign) ∧
        operand? (Text.trimStart afterSign) = some (operand, rest) ∧
        selector = .compare (String.ofList (text.takeWhile isFieldChar)) comparison operand := by
  unfold comparisonOf?
  by_cases hfield : text.takeWhile isFieldChar = []
  · simp [hfield, plain]
  · simp only [if_neg hfield]
    split
    next hsign => simp [plain, hsign]
    next comparison afterSign hsign =>
      split
      next hoperand => simp [plain, hsign, hoperand]
      next operand final hoperand =>
        simp only [plain, hsign, Option.map_some, Option.some.injEq, Prod.mk.injEq]
        constructor
        · rintro ⟨rfl, rfl⟩
          exact ⟨hfield, comparison, afterSign, operand, ⟨rfl, rfl⟩, hoperand, rfl⟩
        · rintro ⟨-, _, _, other, ⟨rfl, rfl⟩, hother, rfl⟩
          rw [hoperand, Option.some.injEq, Prod.mk.injEq] at hother
          obtain ⟨rfl, rfl⟩ := hother
          exact ⟨rfl, rfl⟩

/-! ### Parentheses -/

theorem opening?_eq_some_iff {text : List Char} {after : Shorter text} :
    opening? text = some after ↔ text = '(' :: after.1 := by
  unfold opening?
  split
  next rest => simp [Shorter.tail, Subtype.ext_iff]
  next hnone =>
    simp only [reduceCtorEq, false_iff]
    exact hnone after.1

theorem closing?_eq_some_iff {text rest : List Char} :
    (closing? text).map Subtype.val = some rest ↔ Text.trimStart text = ')' :: rest := by
  unfold closing?
  split
  next after hafter => simp [hafter]
  next hnone =>
    simp only [Option.map_none, reduceCtorEq, false_iff]
    exact hnone rest

end MetricBridge.Selector
