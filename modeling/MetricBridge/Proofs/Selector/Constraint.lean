/-
# Which texts are a constraint on the name

A text leads to a read exactly if it says one constraint: the field `name`, one of four signs and
a quoted text that is not empty, with blanks between these parts and parentheses around the whole,
however many of each. `Written` is this form, and it does not mention how a selector is read.

The reader accepts much more, comparisons of any field and joins of them, and refuses it only
when a constraint is asked for. That nothing slips through rests on one fact: neither a join nor a
negation is ever a single comparison, so the levels above the lowest one have added nothing.
-/

import Mathlib
import MetricBridge.Proofs.Selector.Levels
import MetricBridge.Read.Plan

namespace MetricBridge.Selector

open Text (IsBlankText)

/-- The signs of a constraint, each with the constraint that it makes of a text. -/
inductive Sign : (sign : List Char) → (kind : String → NameConstraint) → Prop
  | equal : Sign ['='] .equals
  | equalTwice : Sign ['=', '='] .equals
  | like : Sign ['~'] .like
  | equalLike : Sign ['=', '~'] .like

/-- A constraint on the name in writing. -/
inductive Written : (text : List Char) → (constraint : NameConstraint) → Prop
  | comparison {afterField sign afterSign body content : List Char}
      {kind : String → NameConstraint} {quote : Char} (hfield : IsBlankText afterField)
      (hsign : Sign sign kind) (hafter : IsBlankText afterSign) (hquote : IsQuote quote)
      (hquotes : Quotes quote body content) (hcontent : content ≠ []) :
      Written (nameField.toList ++ afterField ++ sign ++ afterSign ++ [quote] ++ body ++ [quote])
        (kind (String.ofList content))
  | spaced {before text after : List Char} {constraint : NameConstraint}
      (hbefore : IsBlankText before) (hafter : IsBlankText after)
      (htext : Written text constraint) : Written (before ++ text ++ after) constraint
  | enclosed {text : List Char} {constraint : NameConstraint} (htext : Written text constraint) :
      Written (['('] ++ text ++ [')']) constraint

theorem Written.behind {before text : List Char} {constraint : NameConstraint}
    (htext : Written text constraint) (hbefore : IsBlankText before) :
    Written (before ++ text) constraint := by
  have hspaced := htext.spaced hbefore Text.isBlankText_nil
  rwa [List.append_nil] at hspaced

theorem Written.before {text after : List Char} {constraint : NameConstraint}
    (htext : Written text constraint) (hafter : IsBlankText after) :
    Written (text ++ after) constraint :=
  htext.spaced Text.isBlankText_nil hafter

/-- The shortest way to write that the name is some text. -/
theorem written_equals (text : List Char) (hsome : text ≠ [])
    (hplain : ∀ c ∈ text, c ≠ '\x27' ∧ c ≠ '\\') :
    Written ("name='".toList ++ text ++ ['\x27']) (.equals (String.ofList text)) :=
  .comparison Text.isBlankText_nil .equal Text.isBlankText_nil (Or.inr rfl) (quotes_self hplain)
    hsome

/-- The selectors that are a constraint. -/
theorem constraint_eq_ok_iff {selector : Selector} {constraint : NameConstraint} :
    selector.constraint = .ok constraint ↔
      ∃ comparison content, selector = .compare nameField comparison (.text content) ∧
        content ≠ "" ∧
        (comparison = .equal ∧ constraint = .equals content ∨
          comparison = .like ∧ constraint = .like content) := by
  constructor
  · intro hok
    unfold Selector.constraint at hok
    split at hok
    next field comparison content =>
      split at hok
      next hname =>
        obtain ⟨rfl, hcontent⟩ := hname
        split at hok <;> cases hok
        · exact ⟨_, _, rfl, hcontent, Or.inl ⟨rfl, rfl⟩⟩
        · exact ⟨_, _, rfl, hcontent, Or.inr ⟨rfl, rfl⟩⟩
      next => cases hok
    next => cases hok
  · rintro ⟨comparison, content, rfl, hcontent, ⟨rfl, rfl⟩ | ⟨rfl, rfl⟩⟩ <;>
      simp [Selector.constraint, hcontent]

theorem eq_invalidFilter_of_constraint {selector : Selector} {fault : Fault}
    (hconstraint : selector.constraint = .error fault) : fault = .invalidFilter := by
  unfold Selector.constraint at hconstraint
  split at hconstraint
  next =>
    split at hconstraint
    next =>
      split at hconstraint <;> cases hconstraint
      rfl
    next =>
      cases hconstraint
      rfl
  next =>
    cases hconstraint
    rfl

/-! ### What is read as a constraint is written as one -/

theorem sign_of_comparison?_equal {text rest : List Char}
    (hread : comparison? text = some (.equal, rest)) :
    ∃ sign, text = sign ++ rest ∧ Sign sign .equals := by
  unfold comparison? at hread
  split at hread <;> cases hread
  · exact ⟨_, rfl, Sign.equalTwice⟩
  · exact ⟨_, rfl, Sign.equal⟩

theorem sign_of_comparison?_like {text rest : List Char}
    (hread : comparison? text = some (.like, rest)) :
    ∃ sign, text = sign ++ rest ∧ Sign sign .like := by
  unfold comparison? at hread
  split at hread <;> cases hread
  · exact ⟨_, rfl, Sign.equalLike⟩
  · exact ⟨_, rfl, Sign.like⟩

theorem exists_written_of_comparisonOf? {text rest : List Char} {selector : Selector}
    {constraint : NameConstraint} (hread : plain (comparisonOf? text) = some (selector, rest))
    (hconstraint : selector.constraint = .ok constraint) :
    ∃ taken, text = taken ++ rest ∧ Written taken constraint := by
  obtain ⟨comparison, content, rfl, hcontent, hkind⟩ := constraint_eq_ok_iff.1 hconstraint
  obtain ⟨-, comparison, afterSign, operand, hsign, hoperand, heq⟩ :=
    plain_comparisonOf?_eq_some_iff.1 hread
  obtain ⟨hfield, rfl, rfl⟩ := Selector.compare.inj heq
  have hname : text.takeWhile isFieldChar = nameField.toList := by
    rw [hfield, String.toList_ofList]
  obtain ⟨afterField, hafterField, hbehindField⟩ :=
    Text.exists_isBlankText_append_trimStart (text.dropWhile isFieldChar)
  obtain ⟨sign, kind, htext, hkindOf, rfl⟩ : ∃ sign kind,
      Text.trimStart (text.dropWhile isFieldChar) = sign ++ afterSign ∧ Sign sign kind ∧
        constraint = kind content := by
    rcases hkind with ⟨rfl, rfl⟩ | ⟨rfl, rfl⟩
    · obtain ⟨sign, htext, hkindOf⟩ := sign_of_comparison?_equal hsign
      exact ⟨sign, _, htext, hkindOf, rfl⟩
    · obtain ⟨sign, htext, hkindOf⟩ := sign_of_comparison?_like hsign
      exact ⟨sign, _, htext, hkindOf, rfl⟩
  obtain ⟨blanks, hblanks, hbehindSign⟩ := Text.exists_isBlankText_append_trimStart afterSign
  obtain ⟨quote, body, hquote, hquoted, hquotes⟩ := quotes_of_operand? hoperand
  have hsome : content.toList ≠ [] := fun hnil => hcontent (String.toList_eq_nil_iff.1 hnil)
  refine ⟨nameField.toList ++ afterField ++ sign ++ blanks ++ [quote] ++ body ++ [quote], ?_, ?_⟩
  · calc text
        = text.takeWhile isFieldChar ++ text.dropWhile isFieldChar :=
          (List.takeWhile_append_dropWhile ..).symm
      _ = nameField.toList ++ (afterField ++ (sign ++ (blanks ++
            (quote :: body ++ quote :: rest)))) := by
          rw [hname, hbehindField, htext, hbehindSign, hquoted]
      _ = _ := by simp
  · have hwritten := Written.comparison hafterField hkindOf hblanks hquote hquotes hsome
    rwa [String.ofList_toList] at hwritten

/-- By induction on the length of the text, parentheses being taken off one pair at a time. -/
theorem exists_written_of_unary? {text rest : List Char} {selector : Selector}
    {constraint : NameConstraint} (hread : plain (unary? text) = some (selector, rest))
    (hconstraint : selector.constraint = .ok constraint) :
    ∃ taken, text = taken ++ rest ∧ Written taken constraint := by
  induction hlength : text.length using Nat.strong_induction_on generalizing text rest with
  | _ length ih =>
    obtain ⟨before, hbefore, htext⟩ := Text.exists_isBlankText_append_trimStart text
    cases hnot : keywordNot? (Text.trimStart text) with
    | some after =>
      rw [plain_unary?_of_not rfl hnot] at hread
      obtain ⟨_, _, heq⟩ := Option.map_eq_some_iff.1 hread
      cases heq
      cases hconstraint
    | none =>
      cases hopening : opening? (Text.trimStart text) with
      | some after =>
        rw [plain_unary?_of_opening rfl hnot hopening] at hread
        obtain ⟨⟨inner, afterInner⟩, hinner, hclosing⟩ := Option.bind_eq_some_iff.1 hread
        obtain ⟨final, hfinal, heq⟩ := Option.map_eq_some_iff.1 hclosing
        cases heq
        have hclosed : Text.trimStart afterInner = ')' :: final.1 :=
          closing?_eq_some_iff.1 (by rw [hfinal]; rfl)
        obtain ⟨_, _, rfl, -⟩ := constraint_eq_ok_iff.1 hconstraint
        obtain ⟨afterUnary, hunary, rfl⟩ := plain_unary?_of_either? hinner
        rw [Text.trimStart_trimStart] at hclosed
        obtain ⟨blanks, hblanks, hbehind⟩ := Text.exists_isBlankText_append_trimStart afterUnary
        have hafter := after.2
        have htrim := Text.length_trimStart_le text
        obtain ⟨taken, htaken, hwritten⟩ := ih after.1.length (by omega) hunary rfl
        have hinside : after.1 = taken ++ (blanks ++ ')' :: final.1) := by
          rw [htaken]
          exact congrArg (taken ++ ·) (hbehind.trans (congrArg (blanks ++ ·) hclosed))
        refine ⟨before ++ (['('] ++ (taken ++ blanks) ++ [')']), ?_,
          (hwritten.before hblanks).enclosed.behind hbefore⟩
        rw [htext, opening?_eq_some_iff.1 hopening, hinside]
        simp
      | none =>
        rw [plain_unary?_of_comparison rfl hnot hopening] at hread
        obtain ⟨taken, htaken, hwritten⟩ := exists_written_of_comparisonOf? hread hconstraint
        refine ⟨before ++ taken, ?_, hwritten.behind hbefore⟩
        rw [List.append_assoc, ← htaken]
        exact htext

/-! ### What is written as a constraint is read as one -/

theorem toList_nameField : nameField.toList = ['n', 'a', 'm', 'e'] := rfl

/-- The longer signs do not matter where neither `=` nor `~` follows. -/
theorem comparison?_of_sign {sign : List Char} {kind : String → NameConstraint}
    (hsign : Sign sign kind) {rest : List Char} (hrest : ∀ c ∈ rest.head?, c ≠ '=' ∧ c ≠ '~') :
    ∃ comparison, comparison? (sign ++ rest) = some (comparison, rest) ∧
      ∀ content, content ≠ "" →
        (compare nameField comparison (.text content)).constraint = .ok (kind content) := by
  cases hsign with
  | equal =>
    refine ⟨.equal, ?_, fun content hcontent => by simp [Selector.constraint, hcontent]⟩
    cases rest with
    | nil => rfl
    | cons c others =>
      obtain ⟨hequal, hlike⟩ := hrest c rfl
      rw [List.singleton_append, comparison?]
      · exact fun _ heq => hequal (List.cons.inj heq).1
      · exact fun _ heq => hlike (List.cons.inj heq).1
  | equalTwice =>
    exact ⟨.equal, rfl, fun content hcontent => by simp [Selector.constraint, hcontent]⟩
  | like => exact ⟨.like, rfl, fun content hcontent => by simp [Selector.constraint, hcontent]⟩
  | equalLike =>
    exact ⟨.like, rfl, fun content hcontent => by simp [Selector.constraint, hcontent]⟩

theorem plain_unary?_nameField (rest : List Char) :
    plain (unary? (nameField.toList ++ rest)) =
      plain (comparisonOf? (nameField.toList ++ rest)) := by
  apply plain_unary?_of_comparison
  · rw [toList_nameField]
    exact Text.trimStart_cons_of_not_blank (by decide) _
  · -- The field begins like `NOT`, but goes on differently.
    rw [toList_nameField, List.cons_append, keywordNot?, if_pos (by decide), List.cons_append,
      keyword?, if_neg (by decide)]
    rfl
  · rw [toList_nameField]
    rfl

theorem exists_unary?_of_comparison {afterField sign afterSign body content : List Char}
    {kind : String → NameConstraint} {quote : Char} (hfield : IsBlankText afterField)
    (hsign : Sign sign kind) (hafter : IsBlankText afterSign) (hquote : IsQuote quote)
    (hquotes : Quotes quote body content) (hcontent : content ≠ []) (rest : List Char) :
    ∃ selector, selector.constraint = .ok (kind (String.ofList content)) ∧
      plain (unary? (nameField.toList ++
        (afterField ++ (sign ++ (afterSign ++ (quote :: body ++ quote :: rest)))))) =
        some (selector, rest) := by
  set quoted := quote :: body ++ quote :: rest with hquoted
  have hbehindSign : ∀ c ∈ (afterSign ++ quoted).head?, c ≠ '=' ∧ c ≠ '~' := by
    refine Text.head_append_of_isBlankText (p := fun c => c ≠ '=' ∧ c ≠ '~') hafter ?_ ?_
    · intro c hblank
      constructor <;> rintro rfl <;> exact absurd hblank (by decide)
    · rintro c ⟨⟩
      rcases hquote with rfl | rfl <;> decide
  obtain ⟨comparison, hread, hconstraint⟩ := comparison?_of_sign hsign hbehindSign
  have hsignHead : ∀ c ∈ (sign ++ (afterSign ++ quoted)).head?,
      isFieldChar c = false ∧ Text.isBlank c = false := by
    cases hsign <;> rintro c ⟨⟩ <;> decide +kernel
  have hname : ∀ c ∈ nameField.toList, isFieldChar c = true := by
    simp [toList_nameField, isFieldChar, Text.isAlphanumeric_of_ascii]
  obtain ⟨htake, hdrop⟩ := span_isFieldChar hname (Text.head_append_of_isBlankText hfield
    (fun _ => isFieldChar_of_isBlank) fun c hc => (hsignHead c hc).1)
  have hsome : String.ofList content ≠ "" := by
    intro hnil
    rw [← String.toList_eq_nil_iff, String.toList_ofList] at hnil
    exact hcontent hnil
  refine ⟨.compare nameField comparison (.text (String.ofList content)), hconstraint _ hsome, ?_⟩
  rw [plain_unary?_nameField, plain_comparisonOf?_eq_some_iff]
  refine ⟨?_, comparison, afterSign ++ quoted, .text (String.ofList content), ?_, ?_, ?_⟩
  · rw [htake, toList_nameField]
    exact List.cons_ne_nil _ _
  · rw [hdrop, Text.trimStart_append_of_isBlankText hfield,
      Text.trimStart_of_head_not_blank fun c hc => (hsignHead c hc).2, hread]
  · rw [Text.trimStart_append_of_isBlankText hafter, hquoted, List.cons_append,
      Text.trimStart_cons_of_not_blank (not_blank_of_isQuote hquote)]
    exact operand?_of_quotes hquote hquotes rest
  · rw [htake, String.ofList_toList]

/-- Blanks behind the text may stay unread, for the levels above skip them. -/
theorem Written.exists_unary? {text : List Char} {constraint : NameConstraint}
    (hwritten : Written text constraint) {rest : List Char} (hrest : Closes rest) :
    ∃ selector after, selector.constraint = .ok constraint ∧
      plain (unary? (text ++ rest)) = some (selector, after) ∧
      Text.trimStart after = Text.trimStart rest := by
  induction hwritten generalizing rest with
  | @comparison afterField sign afterSign body content kind quote hfield hsign hafter hquote
      hquotes hcontent =>
    obtain ⟨selector, hselector, hread⟩ :=
      exists_unary?_of_comparison hfield hsign hafter hquote hquotes hcontent rest
    refine ⟨selector, rest, hselector, ?_, rfl⟩
    have htext : nameField.toList ++ afterField ++ sign ++ afterSign ++ [quote] ++ body ++
        [quote] ++ rest = nameField.toList ++ (afterField ++ (sign ++ (afterSign ++
          (quote :: body ++ quote :: rest)))) := by simp
    rw [htext]
    exact hread
  | @spaced before text after constraint hbefore hafter _ ih =>
    have hbehind : Text.trimStart (after ++ rest) = Text.trimStart rest :=
      Text.trimStart_append_of_isBlankText hafter rest
    have hcloses : Closes (after ++ rest) := by
      rw [Closes, hbehind]
      exact hrest
    obtain ⟨selector, left, hselector, hread, hleft⟩ := ih hcloses
    refine ⟨selector, left, hselector, ?_, hleft.trans hbehind⟩
    rw [List.append_assoc, List.append_assoc, plain_unary?_append_of_isBlankText hbefore]
    exact hread
  | @enclosed text constraint _ ih =>
    have htrim : Text.trimStart (')' :: rest) = ')' :: rest :=
      Text.trimStart_cons_of_not_blank (by decide) rest
    obtain ⟨selector, left, hselector, hread, hleft⟩ := ih (Or.inr ⟨rest, htrim⟩)
    rw [htrim] at hleft
    have hclosing : (closing? (Text.trimStart left)).map Subtype.val = some rest := by
      rw [closing?_eq_some_iff, Text.trimStart_trimStart]
      exact hleft
    obtain ⟨final, hfinal, rfl⟩ := Option.map_eq_some_iff.1 hclosing
    refine ⟨selector, final.1, hselector, ?_, rfl⟩
    have htext : ['('] ++ text ++ [')'] ++ final.1 = '(' :: (text ++ ')' :: final.1) := by simp
    rw [htext, plain_unary?_opening, plain_either?_of_closes hread (Or.inr ⟨final.1, hleft⟩),
      Option.bind_some, hfinal]
    rfl

/-! ### Which texts lead to a read -/

theorem read_bind_constraint_eq_ok_iff {text : String} {constraint : NameConstraint} :
    (read text).bind Selector.constraint = .ok constraint ↔ Written text.toList constraint := by
  constructor
  · intro hok
    cases hread : read text with
    | error fault =>
      rw [hread] at hok
      cases hok
    | ok selector =>
      rw [hread] at hok
      obtain ⟨_, _, rfl, -⟩ := constraint_eq_ok_iff.1 hok
      obtain ⟨rest, heither, hend⟩ := read_eq_ok_iff.1 hread
      obtain ⟨after, hunary, rfl⟩ := plain_unary?_of_either? heither
      obtain ⟨taken, htaken, hwritten⟩ := exists_written_of_unary? hunary hok
      rw [Text.trimStart_trimStart, Text.trimStart_eq_nil_iff] at hend
      rw [htaken]
      exact hwritten.before hend
  · intro hwritten
    have hcloses : Closes [] := Or.inl rfl
    obtain ⟨selector, after, hconstraint, hunary, hafter⟩ := hwritten.exists_unary? hcloses
    rw [List.append_nil] at hunary
    have hread : read text = .ok selector := by
      refine read_eq_ok_iff.2 ⟨_, plain_either?_of_closes hunary (Or.inl hafter), ?_⟩
      rw [Text.trimStart_trimStart]
      exact hafter
    rw [hread]
    exact hconstraint

/-- What the store is asked for is the text of the constraint, whichever of the two kinds. -/
theorem read_bind_targetOf_eq_ok_iff {text target : String} :
    (read text).bind (fun selector => Plan.targetOf (some selector)) = .ok target ↔
      Written text.toList (.equals target) ∨ Written text.toList (.like target) := by
  have htarget : (read text).bind (fun selector => Plan.targetOf (some selector)) =
      ((read text).bind Selector.constraint).map NameConstraint.target := by
    cases read text <;> rfl
  rw [htarget, ← read_bind_constraint_eq_ok_iff, ← read_bind_constraint_eq_ok_iff]
  cases (read text).bind Selector.constraint with
  | error fault => simp [Except.map]
  | ok constraint => cases constraint <;> simp [Except.map, NameConstraint.target]

/-- Reading a text and asking for its constraint gives a constraint exactly if the text is this
constraint in writing, with its text as the target, and tells for all other texts that the filter
is invalid. -/
theorem read_bind_constraint (text : String) :
    (∀ constraint, (read text).bind Selector.constraint = .ok constraint ↔
      Written text.toList constraint) ∧
    (∀ target, (read text).bind (fun selector => Plan.targetOf (some selector)) = .ok target ↔
      Written text.toList (.equals target) ∨ Written text.toList (.like target)) ∧
    ((read text).bind Selector.constraint = .error .invalidFilter ↔
      ¬∃ constraint, Written text.toList constraint) := by
  refine ⟨fun constraint => read_bind_constraint_eq_ok_iff,
    fun target => read_bind_targetOf_eq_ok_iff, ?_⟩
  simp only [← read_bind_constraint_eq_ok_iff]
  cases hread : read text with
  | error fault =>
    rw [eq_invalidFilter_of_read hread]
    simp [Except.bind]
  | ok selector =>
    cases hconstraint : selector.constraint with
    | error fault =>
      obtain rfl := eq_invalidFilter_of_constraint hconstraint
      simp [Except.bind, hconstraint]
    | ok constraint => simp [Except.bind, hconstraint]

end MetricBridge.Selector
