/-
# Selectors in print

A selector can be put into words in many ways. A sign may be written with one or two characters,
a text with either quote, a keyword in any letter case, `AND` may be left out, any blanks may stand
between the words, and parentheses may stand around any part. They have to stand where a part binds
less closely than its place asks for; operands of `AND` and of `OR` are joined from the left.

`Prints` is the relation between a selector and its ways to be printed, and does not mention how a
selector is read. Reading undoes it: whichever way a selector was printed, this selector is read
back. A level that joins operands is told by what it does with the rest of a text: when it has read
a printed selector, it goes on from there as if this selector had been the first operand.

Fields that spell a keyword need no care, for a sign follows them and no blank.
-/

import Mathlib
import MetricBridge.Proofs.Binary64.ReadBack
import MetricBridge.Proofs.Selector.Levels

namespace MetricBridge.Selector

open Text (IsBlankText)

/-! ### Ways to print a selector -/

/-- The signs of the comparisons. -/
inductive SignOf : (comparison : Comparison) → (sign : List Char) → Prop
  | equal : SignOf .equal ['=']
  | equalTwice : SignOf .equal ['=', '=']
  | like : SignOf .like ['~']
  | equalLike : SignOf .like ['=', '~']
  | unequal : SignOf .unequal ['!', '=']
  | unlike : SignOf .unlike ['!', '~']
  | less : SignOf .less ['<']
  | atMost : SignOf .atMost ['<', '=']
  | greater : SignOf .greater ['>']
  | atLeast : SignOf .atLeast ['>', '=']

/-- The other side of a comparison in print. A number is printed without an exponent. -/
inductive PrintsOperand : (operand : Operand) → (text : List Char) → Prop
  | text {quote : Char} {body content : List Char} (hquote : IsQuote quote)
      (hquotes : Quotes quote body content) :
      PrintsOperand (.text (String.ofList content)) (quote :: body ++ [quote])
  | number (magnitude : Binary64.Magnitude) :
      PrintsOperand (.number (.finite false magnitude))
        (Binary64.Layout.line.write (.finite false magnitude))

/-- A keyword in any letter case. The keyword is given in capitals. -/
def IsKeyword (letters word : List Char) : Prop :=
  word.map Char.toUpper = letters

/-- Blanks that separate two words. -/
def IsGap (gap : List Char) : Prop :=
  IsBlankText gap ∧ gap ≠ []

/-- What stands between two operands of `AND`, which may be left out. -/
inductive Joint : (joint : List Char) → Prop
  | omitted {gap : List Char} (hgap : IsGap gap) : Joint gap
  | written {before word after : List Char} (hbefore : IsGap before)
      (hword : IsKeyword ['A', 'N', 'D'] word) (hafter : IsGap after) :
      Joint (before ++ word ++ after)

/-- The places of a selector, by how closely it has to bind there. -/
inductive Place where
  | operand
  | conjunction
  | disjunction

/-- The selector in print, for a place. -/
inductive Prints : (place : Place) → (selector : Selector) → (text : List Char) → Prop
  | compare {field sign side : List Char} {comparison : Comparison} {operand : Operand}
      (hne : field ≠ []) (hfield : ∀ c ∈ field, isFieldChar c = true)
      (hsign : SignOf comparison sign) (hside : PrintsOperand operand side) :
      Prints .operand (.compare (String.ofList field) comparison operand) (field ++ sign ++ side)
  | negate {inner : Selector} {word gap text : List Char} (hword : IsKeyword ['N', 'O', 'T'] word)
      (hgap : IsGap gap) (hinner : Prints .operand inner text) :
      Prints .operand (.negate inner) (word ++ gap ++ text)
  | enclosed {selector : Selector} {before text after : List Char} (hbefore : IsBlankText before)
      (hafter : IsBlankText after) (hinner : Prints .disjunction selector text) :
      Prints .operand selector (['('] ++ before ++ text ++ after ++ [')'])
  | operand {selector : Selector} {text : List Char} (hoperand : Prints .operand selector text) :
      Prints .conjunction selector text
  | both {left right : Selector} {first joint second : List Char}
      (hleft : Prints .conjunction left first) (hjoint : Joint joint)
      (hright : Prints .operand right second) :
      Prints .conjunction (.both left right) (first ++ joint ++ second)
  | conjunction {selector : Selector} {text : List Char}
      (hconjunction : Prints .conjunction selector text) : Prints .disjunction selector text
  | either {left right : Selector} {first before word after second : List Char}
      (hleft : Prints .disjunction left first) (hbefore : IsGap before)
      (hword : IsKeyword ['O', 'R'] word) (hafter : IsGap after)
      (hright : Prints .conjunction right second) :
      Prints .disjunction (.either left right) (first ++ (before ++ word ++ after) ++ second)

/-! ### Keywords -/

theorem endsKeyword_gap {gap : List Char} (hgap : IsGap gap) (rest : List Char) :
    endsKeyword (gap ++ rest) = true := by
  obtain ⟨hblank, hne⟩ := hgap
  obtain ⟨c, others, rfl⟩ := List.exists_cons_of_ne_nil hne
  simp [endsKeyword, hblank c List.mem_cons_self]

theorem val_keyword? {letters word rest : List Char} (hword : IsKeyword letters word)
    (hrest : endsKeyword rest = true) :
    (keyword? letters (word ++ rest)).map Subtype.val = some rest := by
  induction word generalizing letters with
  | nil =>
    obtain rfl : [] = letters := hword
    rw [List.nil_append, keyword?, if_pos hrest]
    rfl
  | cons c others ih =>
    obtain rfl : c.toUpper :: others.map Char.toUpper = letters := hword
    rw [List.cons_append, keyword?, if_pos rfl, Option.map_map]
    exact ih rfl

theorem exists_keywordOr?_eq_some {word rest : List Char} (hword : IsKeyword ['O', 'R'] word)
    (hrest : endsKeyword rest = true) :
    ∃ next, keywordOr? (word ++ rest) = some next ∧ next.1 = rest := by
  apply Option.map_eq_some_iff.1
  rw [map_val_keywordOr?, val_keyword? hword hrest]

theorem exists_keywordNot?_eq_some {word rest : List Char} (hword : IsKeyword ['N', 'O', 'T'] word)
    (hrest : endsKeyword rest = true) :
    ∃ next, keywordNot? (word ++ rest) = some next ∧ next.1 = rest := by
  apply Option.map_eq_some_iff.1
  rw [map_val_keywordNot?, val_keyword? hword hrest]

theorem val_afterAnd {word rest : List Char} (hword : IsKeyword ['A', 'N', 'D'] word)
    (hrest : endsKeyword rest = true) : (afterAnd (word ++ rest)).1 = rest := by
  obtain ⟨after, hafter, hval⟩ := Option.map_eq_some_iff.1 (val_keyword? hword hrest)
  rw [afterAnd, hafter, Option.getD_some, hval]

/-- A word that begins with another letter than a keyword is not that keyword. -/
theorem keyword?_cons_of_ne {letter c : Char} (hne : c.toUpper ≠ letter)
    (letters rest : List Char) : keyword? (letter :: letters) (c :: rest) = none := by
  rw [keyword?, if_neg hne]

theorem IsKeyword.exists_cons {letter : Char} {letters word : List Char}
    (hword : IsKeyword (letter :: letters) word) (hupper : letter.isUpper = true) :
    ∃ c others, word = c :: others ∧ c.toUpper = letter ∧ Text.isBlank c = false ∧ c ≠ ')' := by
  obtain ⟨c, others, rfl, rfl, -⟩ := List.map_eq_cons_iff.1 hword
  refine ⟨c, others, rfl, rfl, Text.not_isBlank_of_isUpper hupper, ?_⟩
  rintro rfl
  cases hupper

theorem IsKeyword.trimStart_append {letter : Char} {letters word : List Char}
    (hword : IsKeyword (letter :: letters) word) (hupper : letter.isUpper = true)
    (rest : List Char) : Text.trimStart (word ++ rest) = word ++ rest := by
  obtain ⟨c, others, rfl, -, hblank, -⟩ := hword.exists_cons hupper
  exact Text.trimStart_cons_of_not_blank hblank _

theorem not_blank_of_isFieldChar {c : Char} (hc : isFieldChar c = true) :
    Text.isBlank c = false := by
  by_contra hblank
  rw [isFieldChar_of_isBlank (Bool.eq_true_of_not_eq_false hblank)] at hc
  cases hc

/-- The first characters of signs. -/
def IsSignChar (c : Char) : Prop :=
  c = '=' ∨ c = '~' ∨ c = '!' ∨ c = '<' ∨ c = '>'

theorem SignOf.exists_cons {comparison : Comparison} {sign : List Char}
    (hsign : SignOf comparison sign) : ∃ c others, sign = c :: others ∧ IsSignChar c := by
  cases hsign <;> exact ⟨_, _, rfl, by simp [IsSignChar]⟩

theorem endsKeyword_eq_false_of_isFieldChar {c : Char} (hc : isFieldChar c = true)
    (rest : List Char) : endsKeyword (c :: rest) = false := by
  have hparenthesis : c ≠ '(' := by
    rintro rfl
    exact absurd hc (by decide +kernel)
  simp [endsKeyword, not_blank_of_isFieldChar hc, hparenthesis]

/-- A field before a sign is not taken for a keyword, whatever it spells: no keyword ends within
a field or before a sign. -/
theorem keyword?_field {letters field : List Char} {c : Char}
    (hletters : ∀ letter ∈ letters, letter.isUpper = true)
    (hfield : ∀ c ∈ field, isFieldChar c = true) (hc : IsSignChar c) (rest : List Char) :
    keyword? letters (field ++ c :: rest) = none := by
  induction field generalizing letters with
  | nil =>
    have hsign : endsKeyword (c :: rest) = false ∧ c.toUpper.isUpper = false := by
      rcases hc with rfl | rfl | rfl | rfl | rfl <;> exact ⟨rfl, by decide⟩
    cases letters with
    | nil => simp [keyword?, hsign.1]
    | cons letter others =>
      have hletter : c.toUpper ≠ letter := by
        rintro rfl
        have hupper := hletters _ List.mem_cons_self
        rw [hsign.2] at hupper
        cases hupper
      simp [keyword?, hletter]
  | cons d others ih =>
    obtain ⟨hd, hothers⟩ := List.forall_mem_cons.1 hfield
    cases letters with
    | nil => simp [keyword?, endsKeyword_eq_false_of_isFieldChar hd]
    | cons letter more =>
      have hmore := ih (List.forall_mem_cons.1 hletters).2 hothers
      simp [keyword?, hmore]

/-! ### Where an operand begins and ends -/

theorem endsConjunction_cons_eq_false {c : Char} {rest : List Char} (hclosing : c ≠ ')')
    (hor : keyword? ['O', 'R'] (c :: rest) = none) : endsConjunction (c :: rest) = false := by
  simp [endsConjunction, hclosing, keywordOr?_eq_none_iff.2 hor]

/-- An operand may begin with this text, since nothing at its front is taken for anything else. -/
structure BeginsOperand (text : List Char) : Prop where
  exists_cons : ∃ c rest, text = c :: rest ∧ Text.isBlank c = false ∧ c ≠ ')'
  not_or : keyword? ['O', 'R'] text = none
  not_and : keyword? ['A', 'N', 'D'] text = none

namespace BeginsOperand

variable {text : List Char}

theorem trimStart_eq (hbegins : BeginsOperand text) : Text.trimStart text = text := by
  obtain ⟨c, rest, rfl, hblank, -⟩ := hbegins.exists_cons
  exact Text.trimStart_cons_of_not_blank hblank rest

theorem endsConjunction_eq_false (hbegins : BeginsOperand text) :
    endsConjunction text = false := by
  obtain ⟨c, rest, rfl, -, hclosing⟩ := hbegins.exists_cons
  exact endsConjunction_cons_eq_false hclosing hbegins.not_or

end BeginsOperand

theorem beginsOperand_field {field : List Char} {c : Char} (hne : field ≠ [])
    (hfield : ∀ c ∈ field, isFieldChar c = true) (hc : IsSignChar c) (rest : List Char) :
    BeginsOperand (field ++ c :: rest) := by
  obtain ⟨first, others, rfl⟩ := List.exists_cons_of_ne_nil hne
  have hfirst := hfield first List.mem_cons_self
  have hclosing : first ≠ ')' := by
    rintro rfl
    exact absurd hfirst (by decide +kernel)
  exact ⟨⟨first, _, rfl, not_blank_of_isFieldChar hfirst, hclosing⟩,
    keyword?_field (by simp) hfield hc rest, keyword?_field (by simp) hfield hc rest⟩

theorem beginsOperand_word {word : List Char} (hword : IsKeyword ['N', 'O', 'T'] word)
    (rest : List Char) : BeginsOperand (word ++ rest) := by
  obtain ⟨c, others, rfl, hc, hblank, hclosing⟩ := hword.exists_cons rfl
  exact ⟨⟨c, _, rfl, hblank, hclosing⟩, keyword?_cons_of_ne (by rw [hc]; decide) _ _,
    keyword?_cons_of_ne (by rw [hc]; decide) _ _⟩

theorem beginsOperand_parenthesis (rest : List Char) : BeginsOperand ('(' :: rest) :=
  ⟨⟨'(', rest, rfl, by decide, by decide⟩, keyword?_cons_of_ne (by decide) _ _,
    keyword?_cons_of_ne (by decide) _ _⟩

/-- Nor is a field taken for an opening parenthesis. -/
theorem opening?_field {field : List Char} (hne : field ≠ [])
    (hfield : ∀ c ∈ field, isFieldChar c = true) (rest : List Char) :
    opening? (field ++ rest) = none := by
  obtain ⟨first, others, rfl⟩ := List.exists_cons_of_ne_nil hne
  have hfirst := hfield first List.mem_cons_self
  cases hopening : opening? (first :: others ++ rest) with
  | none => rfl
  | some after =>
    obtain ⟨rfl, -⟩ := List.cons.inj (opening?_eq_some_iff.1 hopening)
    exact absurd hfirst (by decide +kernel)

theorem Prints.beginsOperand {selector : Selector} {text : List Char}
    (hprints : Prints .operand selector text) (rest : List Char) :
    BeginsOperand (text ++ rest) := by
  cases hprints with
  | compare hne hfield hsign hside =>
    obtain ⟨c, others, rfl, hc⟩ := hsign.exists_cons
    simpa using beginsOperand_field hne hfield hc _
  | negate hword hgap hinner => simpa using beginsOperand_word hword _
  | enclosed hbefore hafter hinner => simpa using beginsOperand_parenthesis _

/-- An operand ends before this text: nothing, a blank or a closing parenthesis follows it. -/
def EndsOperand (rest : List Char) : Prop :=
  ∀ c ∈ rest.head?, Text.isBlank c = true ∨ c = ')'

theorem endsOperand_gap {gap : List Char} (hgap : IsGap gap) (rest : List Char) :
    EndsOperand (gap ++ rest) := by
  obtain ⟨hblank, hne⟩ := hgap
  obtain ⟨c, others, rfl⟩ := List.exists_cons_of_ne_nil hne
  rintro _ ⟨⟩
  exact Or.inl (hblank c List.mem_cons_self)

theorem Joint.endsOperand {joint : List Char} (hjoint : Joint joint) (rest : List Char) :
    EndsOperand (joint ++ rest) := by
  cases hjoint with
  | omitted hgap => exact endsOperand_gap hgap rest
  | written hbefore hword hafter => simpa using endsOperand_gap hbefore _

theorem EndsOperand.not_isFieldChar {rest : List Char} (hends : EndsOperand rest) :
    ∀ c ∈ rest.head?, isFieldChar c = false := by
  intro c hc
  rcases hends c hc with hblank | rfl
  · exact isFieldChar_of_isBlank hblank
  · decide +kernel

/-! ### Comparisons -/

theorem PrintsOperand.exists_cons {operand : Operand} {side : List Char}
    (hside : PrintsOperand operand side) :
    ∃ c others, side = c :: others ∧ Text.isBlank c = false ∧ c ≠ '=' ∧ c ≠ '~' := by
  cases hside with
  | @text quote body _ hquote =>
    refine ⟨quote, body ++ [quote], rfl, not_blank_of_isQuote hquote, ?_⟩
    rcases hquote with rfl | rfl <;> decide
  | number magnitude =>
    obtain ⟨c, others, -, htext, hdigit, -⟩ := Binary64.magnitudeText_spec magnitude
    refine ⟨c, others, htext, Decimal.not_isBlank_of_isDigit hdigit, ?_, ?_⟩ <;>
      rintro rfl <;> cases hdigit

theorem comparison?_of_signOf {comparison : Comparison} {sign : List Char}
    (hsign : SignOf comparison sign) {c : Char} (hequal : c ≠ '=') (hlike : c ≠ '~')
    (rest : List Char) : comparison? (sign ++ c :: rest) = some (comparison, c :: rest) := by
  cases hsign <;> simp [comparison?, hequal, hlike]

/-- The characters of a decimal are characters of a field. -/
theorem isFieldChar_of_isDecimalChar {c : Char} (hc : Binary64.IsDecimalChar c) :
    isFieldChar c = true := by
  rcases hc with hdigit | rfl
  · have hascii : c.toNat < 0x80 := by
      have hbounds := Decimal.toNat_bounds_of_isDigit hdigit
      omega
    simp [isFieldChar, Text.isAlphanumeric_of_ascii hascii, Char.isAlphanum, hdigit]
  · decide +kernel

theorem operand?_of_printsOperand {operand : Operand} {side rest : List Char}
    (hside : PrintsOperand operand side) (hends : EndsOperand rest) :
    operand? (side ++ rest) = some (operand, rest) := by
  cases hside with
  | text hquote hquotes => simpa using operand?_of_quotes hquote hquotes rest
  | number magnitude =>
    obtain ⟨c, others, -, htext, hdigit, hchars, -⟩ := Binary64.magnitudeText_spec magnitude
    have hwrite : Binary64.Layout.line.write (.finite false magnitude) = c :: others := htext
    have hread := Binary64.read?_write .line (.finite false magnitude)
    rw [hwrite] at hread ⊢
    have hquote : ¬(c = '"' ∨ c = '\x27') := by
      rintro (rfl | rfl) <;> cases hdigit
    obtain ⟨htake, hdrop⟩ := span_isFieldChar
      (fun d hmem => isFieldChar_of_isDecimalChar (hchars d hmem)) hends.not_isFieldChar
    rw [List.cons_append] at htake hdrop
    rw [List.cons_append, operand?, if_neg hquote, htake, hdrop, hread, Option.map_some]

/-- A printed comparison is read up to where it ends. -/
theorem plain_comparisonOf?_append {field sign side rest : List Char} {comparison : Comparison}
    {operand : Operand} (hne : field ≠ []) (hfield : ∀ c ∈ field, isFieldChar c = true)
    (hsign : SignOf comparison sign) (hside : PrintsOperand operand side)
    (hends : EndsOperand rest) :
    plain (comparisonOf? (field ++ (sign ++ (side ++ rest)))) =
      some (.compare (String.ofList field) comparison operand, rest) := by
  obtain ⟨c, others, hcons, hblank, hequal, hlike⟩ := hside.exists_cons
  have hread := operand?_of_printsOperand hside hends
  rw [hcons, List.cons_append] at hread ⊢
  obtain ⟨s, more, rfl, hs⟩ := hsign.exists_cons
  have hsignChar : isFieldChar s = false ∧ Text.isBlank s = false := by
    rcases hs with rfl | rfl | rfl | rfl | rfl <;> decide +kernel
  have hhead : ∀ d ∈ (s :: more ++ c :: (others ++ rest)).head?, isFieldChar d = false := by
    rintro _ ⟨⟩
    exact hsignChar.1
  obtain ⟨htake, hdrop⟩ := span_isFieldChar hfield hhead
  rw [plain_comparisonOf?_eq_some_iff, htake, hdrop]
  refine ⟨hne, comparison, c :: (others ++ rest), operand, ?_, ?_, rfl⟩
  · rw [List.cons_append, Text.trimStart_cons_of_not_blank hsignChar.2, ← List.cons_append]
    exact comparison?_of_signOf hsign hequal hlike _
  · rw [Text.trimStart_cons_of_not_blank hblank]
    exact hread

/-! ### Reading what was printed -/

theorem endsConjunction_of_keywordOr? {text : List Char} {next : Text.Shorter text}
    (hor : keywordOr? text = some next) : endsConjunction text = true := by
  cases text with
  | nil => rfl
  | cons c rest => simp [endsConjunction, hor]

/-- Only what stands behind the blanks decides how `OR` goes on. -/
theorem plain_eitherFrom?_trimStart (left : Selector) (text : List Char) :
    plain (eitherFrom? left (Text.trimStart text)) = plain (eitherFrom? left text) := by
  have hstart := Text.trimStart_trimStart text
  cases hor : keywordOr? (Text.trimStart text) with
  | none => 
    rw [plain_eitherFrom?_of_none hor, plain_eitherFrom?_of_none (by rw [hstart, hor]), hstart]
  | some next =>
    obtain ⟨again, hagain, hval⟩ : ∃ again, keywordOr? (Text.trimStart (Text.trimStart text)) =
        some again ∧ again.1 = next.1 := by
      apply Option.map_eq_some_iff.1
      rw [hstart, hor, Option.map_some]
    rw [plain_eitherFrom?_of_some hor, plain_eitherFrom?_of_some hagain, hval]

/-- What it is to read a printed selector at a place: an operand is read as it is; at the other
places the rest of the text is read as if the selector had been the first operand. -/
def ReadsBack (selector : Selector) (text : List Char) : Place → Prop
  | .operand => ∀ rest, EndsOperand rest → plain (unary? (text ++ rest)) = some (selector, rest)
  | .conjunction => ∀ rest, EndsOperand rest →
      plain (both? (text ++ rest)) = plain (bothFrom? selector rest)
  | .disjunction => ∀ rest, EndsOperand rest → endsConjunction (Text.trimStart rest) = true →
      plain (either? (text ++ rest)) = plain (eitherFrom? selector rest)

variable {selector inner left right : Selector}

theorem readsBack_compare {field sign side : List Char} {comparison : Comparison}
    {operand : Operand} (hne : field ≠ []) (hfield : ∀ c ∈ field, isFieldChar c = true)
    (hsign : SignOf comparison sign) (hside : PrintsOperand operand side) :
    ReadsBack (.compare (String.ofList field) comparison operand) (field ++ sign ++ side)
      .operand := by
  intro rest hends
  have hread := plain_comparisonOf?_append hne hfield hsign hside hends
  obtain ⟨c, others, rfl, hc⟩ := hsign.exists_cons
  have htext : field ++ (c :: others) ++ side ++ rest =
      field ++ c :: (others ++ (side ++ rest)) := by
    simp
  have hnot := keywordNot?_eq_none_iff.2
    (keyword?_field (by simp) hfield hc (others ++ (side ++ rest)))
  rw [htext, plain_unary?_of_comparison (beginsOperand_field hne hfield hc _).trimStart_eq hnot
    (opening?_field hne hfield _)]
  exact hread

theorem readsBack_negate {word gap text : List Char} (hword : IsKeyword ['N', 'O', 'T'] word)
    (hgap : IsGap gap) (hinner : ReadsBack inner text .operand) :
    ReadsBack (.negate inner) (word ++ gap ++ text) .operand := by
  intro rest hends
  have htext : word ++ gap ++ text ++ rest = word ++ (gap ++ (text ++ rest)) := by simp
  obtain ⟨after, hnot, hafter⟩ :=
    exists_keywordNot?_eq_some hword (endsKeyword_gap hgap (text ++ rest))
  rw [htext, plain_unary?_of_not (beginsOperand_word hword _).trimStart_eq hnot, hafter,
    plain_unary?_append_of_isBlankText hgap.1, hinner rest hends, Option.map_some]

theorem readsBack_enclosed {before text after : List Char} (hbefore : IsBlankText before)
    (hafter : IsBlankText after) (hinner : ReadsBack selector text .disjunction) :
    ReadsBack selector (['('] ++ before ++ text ++ after ++ [')']) .operand := by
  intro rest hends
  have htext : ['('] ++ before ++ text ++ after ++ [')'] ++ rest =
      '(' :: (before ++ (text ++ (after ++ ')' :: rest))) := by simp
  have hclosed : Text.trimStart (')' :: rest) = ')' :: rest :=
    Text.trimStart_cons_of_not_blank (by decide) rest
  have hclosing : Text.trimStart (after ++ ')' :: rest) = ')' :: rest := by
    rw [Text.trimStart_append_of_isBlankText hafter, hclosed]
  have hcloses : Closes (after ++ ')' :: rest) := Or.inr ⟨rest, hclosing⟩
  have hendsInner : EndsOperand (after ++ ')' :: rest) := by
    refine Text.head_append_of_isBlankText hafter (fun _ => Or.inl) ?_
    rintro _ ⟨⟩
    exact Or.inr rfl
  rw [htext, plain_unary?_opening, plain_either?_append_of_isBlankText hbefore,
    hinner _ hendsInner (endsConjunction_of_closes hcloses),
    plain_eitherFrom?_of_none (keywordOr?_of_closes hcloses), hclosing, Option.bind_some]
  obtain ⟨final, hfinal, hval⟩ := Option.map_eq_some_iff.1 (closing?_eq_some_iff.2 hclosed)
  rw [hfinal, Option.map_some, hval]

/-- Behind what joins two operands of `AND` the second one is read. -/
theorem plain_bothFrom?_of_joint {joint text : List Char} (hjoint : Joint joint)
    (hbegins : BeginsOperand text) :
    plain (bothFrom? left (joint ++ text)) =
      (plain (unary? text)).bind fun read => plain (bothFrom? (.both left read.1) read.2) := by
  cases hjoint with
  | omitted hgap =>
    have htrim : Text.trimStart (joint ++ text) = text := by
      rw [Text.trimStart_append_of_isBlankText hgap.1, hbegins.trimStart_eq]
    have hends : endsConjunction (Text.trimStart (joint ++ text)) = false := by
      rw [htrim, hbegins.endsConjunction_eq_false]
    rw [plain_bothFrom?_of_continues hends, htrim, val_afterAnd_of_none hbegins.not_and]
  | @written before word after hbefore hword hafter =>
    have htrim : Text.trimStart (before ++ word ++ after ++ text) = word ++ (after ++ text) := by
      rw [List.append_assoc, List.append_assoc, Text.trimStart_append_of_isBlankText hbefore.1,
        hword.trimStart_append rfl]
    have hends : endsConjunction (Text.trimStart (before ++ word ++ after ++ text)) = false := by
      obtain ⟨c, others, rfl, hc, -, hclosing⟩ := hword.exists_cons rfl
      rw [htrim]
      exact endsConjunction_cons_eq_false hclosing (keyword?_cons_of_ne (by rw [hc]; decide) _ _)
    rw [plain_bothFrom?_of_continues hends, htrim, val_afterAnd hword (endsKeyword_gap hafter text),
      plain_unary?_append_of_isBlankText hafter.1]

theorem readsBack_both {first joint second : List Char}
    (hleft : ReadsBack left first .conjunction) (hjoint : Joint joint)
    (hright : ReadsBack right second .operand) (hbegins : ∀ rest, BeginsOperand (second ++ rest)) :
    ReadsBack (.both left right) (first ++ joint ++ second) .conjunction := by
  intro rest hends
  have htext : first ++ joint ++ second ++ rest = first ++ (joint ++ (second ++ rest)) := by simp
  rw [htext, hleft _ (hjoint.endsOperand _), plain_bothFrom?_of_joint hjoint (hbegins rest),
    hright rest hends, Option.bind_some]

theorem readsBack_either {first before word after second : List Char}
    (hleft : ReadsBack left first .disjunction) (hbefore : IsGap before)
    (hword : IsKeyword ['O', 'R'] word) (hafter : IsGap after)
    (hright : ReadsBack right second .conjunction) :
    ReadsBack (.either left right) (first ++ (before ++ word ++ after) ++ second)
      .disjunction := by
  intro rest hends hend
  set joined := before ++ (word ++ (after ++ (second ++ rest))) with hjoined
  have htext : first ++ (before ++ word ++ after) ++ second ++ rest = first ++ joined := by
    simp [hjoined]
  have htrim : Text.trimStart joined = word ++ (after ++ (second ++ rest)) := by
    rw [hjoined, Text.trimStart_append_of_isBlankText hbefore.1, hword.trimStart_append rfl]
  obtain ⟨next, hor, hnext⟩ : ∃ next, keywordOr? (Text.trimStart joined) = some next ∧
      next.1 = after ++ (second ++ rest) := by
    rw [htrim]
    exact exists_keywordOr?_eq_some hword (endsKeyword_gap hafter _)
  have hendsLeft : endsConjunction (Text.trimStart joined) = true :=
    endsConjunction_of_keywordOr? hor
  rw [htext, hleft joined (endsOperand_gap hbefore _) hendsLeft, plain_eitherFrom?_of_some hor,
    hnext, plain_both?_append_of_isBlankText hafter.1, hright rest hends,
    plain_bothFrom?_of_ends hend, Option.bind_some, plain_eitherFrom?_trimStart]

/-- Each way to print a selector is read as this selector, by induction on how it was printed. -/
theorem Prints.readsBack {place : Place} {text : List Char}
    (hprints : Prints place selector text) : ReadsBack selector text place := by
  induction hprints with
  | compare hne hfield hsign hside => exact readsBack_compare hne hfield hsign hside
  | negate hword hgap _ ih => exact readsBack_negate hword hgap ih
  | enclosed hbefore hafter _ ih => exact readsBack_enclosed hbefore hafter ih
  | operand _ ih =>
    intro rest hends
    rw [plain_both?, ih rest hends, Option.bind_some]
  | both _ hjoint hright ihLeft ihRight =>
    exact readsBack_both ihLeft hjoint ihRight hright.beginsOperand
  | conjunction _ ih =>
    intro rest hends hend
    rw [plain_either?, ih rest hends, plain_bothFrom?_of_ends hend, Option.bind_some,
      plain_eitherFrom?_trimStart]
  | either _ hbefore hword hafter _ ihLeft ihRight =>
    exact readsBack_either ihLeft hbefore hword hafter ihRight

/-! ### Selectors that can be printed -/

/-- The other side of a comparison can be printed: any text can, and a number without a minus
sign that is finite. -/
def PrintableOperand : Operand → Prop
  | .text _ => True
  | .number value => ∃ magnitude, value = .finite false magnitude

/-- All comparisons in the selector can be printed. -/
def IsPrintable : Selector → Prop
  | .compare field _ operand =>
    field ≠ "" ∧ (∀ c ∈ field.toList, isFieldChar c = true) ∧ PrintableOperand operand
  | .both left right => left.IsPrintable ∧ right.IsPrintable
  | .either left right => left.IsPrintable ∧ right.IsPrintable
  | .negate inner => inner.IsPrintable

theorem exists_signOf (comparison : Comparison) : ∃ sign, SignOf comparison sign := by
  cases comparison
  case equal => exact ⟨_, .equal⟩
  case unequal => exact ⟨_, .unequal⟩
  case like => exact ⟨_, .like⟩
  case unlike => exact ⟨_, .unlike⟩
  case less => exact ⟨_, .less⟩
  case atMost => exact ⟨_, .atMost⟩
  case greater => exact ⟨_, .greater⟩
  case atLeast => exact ⟨_, .atLeast⟩

/-- Every text can be quoted: a backslash may stand before each of its characters. -/
theorem quotes_escaped (quote : Char) (content : List Char) :
    Quotes quote (content.flatMap fun c => ['\\', c]) content := by
  induction content with
  | nil => exact .nil
  | cons c others ih => exact .escaped ih

theorem exists_printsOperand {operand : Operand} (hprintable : PrintableOperand operand) :
    ∃ side, PrintsOperand operand side := by
  cases operand with
  | text content =>
    have hprints := PrintsOperand.text (Or.inl rfl) (quotes_escaped '"' content.toList)
    rw [String.ofList_toList] at hprints
    exact ⟨_, hprints⟩
  | number value =>
    obtain ⟨magnitude, rfl⟩ := hprintable
    exact ⟨_, .number magnitude⟩

theorem Prints.disjunction {place : Place} {text : List Char}
    (hprints : Prints place selector text) :
    Prints .disjunction selector text := by
  cases place with
  | operand => exact hprints.operand.conjunction
  | conjunction => exact hprints.conjunction
  | disjunction => exact hprints

theorem Prints.inParentheses {text : List Char} (hprints : Prints .disjunction selector text) :
    Prints .operand selector (['('] ++ [] ++ text ++ [] ++ [')']) :=
  .enclosed Text.isBlankText_nil Text.isBlankText_nil hprints

theorem isGap_space : IsGap [' '] :=
  ⟨by simp [IsBlankText, Text.isBlank], by simp⟩

/-- A selector of printable comparisons can be printed, if need be with parentheses. -/
theorem exists_prints (hprintable : selector.IsPrintable) :
    ∃ text, Prints .operand selector text := by
  induction selector with
  | compare field comparison operand =>
    obtain ⟨hne, hfield, hoperand⟩ := hprintable
    obtain ⟨sign, hsign⟩ := exists_signOf comparison
    obtain ⟨side, hside⟩ := exists_printsOperand hoperand
    have hsome : field.toList ≠ [] := fun hnil => hne (String.toList_eq_nil_iff.1 hnil)
    have hprints := Prints.compare hsome hfield hsign hside
    rw [String.ofList_toList] at hprints
    exact ⟨_, hprints⟩
  | both left right ihLeft ihRight =>
    obtain ⟨first, hfirst⟩ := ihLeft hprintable.1
    obtain ⟨second, hsecond⟩ := ihRight hprintable.2
    exact ⟨_, (hfirst.operand.both (.omitted isGap_space) hsecond).disjunction.inParentheses⟩
  | either left right ihLeft ihRight =>
    obtain ⟨first, hfirst⟩ := ihLeft hprintable.1
    obtain ⟨second, hsecond⟩ := ihRight hprintable.2
    have hword : IsKeyword ['O', 'R'] ['O', 'R'] := rfl
    exact ⟨_, (hfirst.disjunction.either isGap_space hword isGap_space
      hsecond.operand).inParentheses⟩
  | negate inner ih =>
    obtain ⟨text, htext⟩ := ih hprintable
    have hword : IsKeyword ['N', 'O', 'T'] ['N', 'O', 'T'] := rfl
    exact ⟨_, .negate hword isGap_space htext⟩

/-- A selector whose fields are runs of field characters, and whose numbers are finite and without
a minus sign, can be printed; and whichever way it is printed, this selector is read back. -/
theorem read_printed (hprintable : selector.IsPrintable) :
    (∃ text, Prints .disjunction selector text) ∧
      ∀ text, Prints .disjunction selector text → read (String.ofList text) = .ok selector := by
  constructor
  · obtain ⟨text, hprints⟩ := exists_prints hprintable
    exact ⟨text, hprints.disjunction⟩
  · intro text hprints
    have hread := hprints.readsBack [] (by simp [EndsOperand]) rfl
    rw [List.append_nil, plain_eitherFrom?_of_none rfl] at hread
    exact read_eq_ok_iff.2 ⟨[], by rwa [String.toList_ofList], rfl⟩

/-- The magnitude of five. -/
def five : Binary64.Magnitude :=
  ⟨5 * 2 ^ 50, -50, by decide⟩

/-- A selector whose fields spell keywords. -/
def keywordFields : Selector :=
  .either (.compare "or" .equal (.text "it's"))
    (.both (.negate (.compare "not" .atMost (.number (.finite false five))))
      (.compare "and" .like (.text "a\"")))

/-- Behind a keyword or without one, `or`, `not` and `and` are fields here. -/
theorem read_keywordFields :
    keywordFields.IsPrintable ∧
      read "or='it\\'s' oR NOT not<=5 and=~\"a\\\"\"" = .ok keywordFields := by
  have hletters : ∀ field ∈ [['o', 'r'], ['n', 'o', 't'], ['a', 'n', 'd']],
      ∀ c ∈ field, isFieldChar c = true := by
    simp [isFieldChar, Text.isAlphanumeric_of_ascii]
  have hprintable : keywordFields.IsPrintable :=
    ⟨⟨by decide, hletters _ (by simp), trivial⟩, ⟨by decide, hletters _ (by simp), five, rfl⟩,
      by decide, hletters _ (by simp), trivial⟩
  have hfirst : Prints .operand (.compare (String.ofList ['o', 'r']) .equal
      (.text (String.ofList ['i', 't', '\x27', 's'])))
      (['o', 'r'] ++ ['='] ++ ('\x27' :: ['i', 't', '\\', '\x27', 's'] ++ ['\x27'])) :=
    .compare (by simp) (hletters _ (by simp)) .equal (.text (Or.inr rfl)
      (.ordinary (by decide) (by decide) (.ordinary (by decide) (by decide) (.escaped
        (.ordinary (by decide) (by decide) .nil)))))
  have hsecond : Prints .operand (.compare (String.ofList ['n', 'o', 't']) .atMost
      (.number (.finite false five))) (['n', 'o', 't'] ++ ['<', '='] ++ ['5']) := by
    have hfive : Binary64.Layout.line.write (.finite false five) = ['5'] := by decide +kernel
    rw [← hfive]
    exact .compare (by simp) (hletters _ (by simp)) .atMost (.number five)
  have hthird : Prints .operand (.compare (String.ofList ['a', 'n', 'd']) .like
      (.text (String.ofList ['a', '"'])))
      (['a', 'n', 'd'] ++ ['=', '~'] ++ ('"' :: ['a', '\\', '"'] ++ ['"'])) :=
    .compare (by simp) (hletters _ (by simp)) .equalLike (.text (Or.inl rfl)
      (.ordinary (by decide) (by decide) (.escaped .nil)))
  have hnot : IsKeyword ['N', 'O', 'T'] ['N', 'O', 'T'] := rfl
  have hor : IsKeyword ['O', 'R'] ['o', 'R'] := rfl
  have hprints := hfirst.disjunction.either isGap_space hor isGap_space
    ((hsecond.negate hnot isGap_space).operand.both (.omitted isGap_space) hthird)
  exact ⟨hprintable, (read_printed hprintable).2 _ hprints⟩

end MetricBridge.Selector
