/-
# Reading selectors

A selector in words is built from comparisons such as `name ~ "a.*"` with `NOT`, `AND`,
`OR` and parentheses; `NOT` binds closest and `OR` least, and comparisons that stand side by
side are joined as if by `AND`. A field is a run of letters, digits, underscores and points.
The other side of a comparison is a text in single or double quotes, in which a backslash
makes the next character an ordinary one, or a number.

Blanks may stand between any two parts. A keyword in any letter case is one only before
a blank, an opening parenthesis or the end of the text; so `notes` is a field, and so is
`or` in `or="x"`.

Each step returns what is left of the text, and what is left is shorter than what the step
was given. The three levels call each other on what is left; where one calls another
on the same text, it is the level below.
-/

import MetricBridge.Binary64.Read
import MetricBridge.Selector
import MetricBridge.Text.Alphanumeric
import MetricBridge.Text.Blank
import MetricBridge.Text.Remainder

namespace MetricBridge.Selector

open Text (Shorter Within)

/-- The text after its leading blanks, with the fact that it is no longer. -/
def unspaced (text : List Char) : Within text :=
  ⟨Text.trimStart text, Text.length_trimStart_le text⟩

/-- The characters of fields and of numbers. -/
def isFieldChar (c : Char) : Bool :=
  Text.isAlphanumeric c || c = '_' || c = '.'

/-- A keyword may end before this text. -/
def endsKeyword : List Char → Bool
  | [] => true
  | c :: _ => Text.isBlank c || c = '('

/-- The text after a keyword in any letter case, if the text starts with that keyword. The
keyword is given in capitals. -/
def keyword? : (word : List Char) → (text : List Char) → Option (Within text)
  | [], text => if endsKeyword text then some (Within.all text) else none
  | _ :: _, [] => none
  | letter :: word, c :: text =>
    if c.toUpper = letter then
      (keyword? word text).map (Within.widen c)
    else none

/-- The text after `OR`. -/
def keywordOr? (text : List Char) : Option (Shorter text) :=
  match text with
  | [] => none
  | c :: text =>
    if c.toUpper = 'O' then
      (keyword? ['R'] text).map (Within.behind c)
    else none

/-- The text after `NOT`. -/
def keywordNot? (text : List Char) : Option (Shorter text) :=
  match text with
  | [] => none
  | c :: text =>
    if c.toUpper = 'N' then
      (keyword? ['O', 'T'] text).map (Within.behind c)
    else none

/-- The text after `AND`, or the text itself where none is written. -/
def afterAnd (text : List Char) : Within text :=
  (keyword? ['A', 'N', 'D'] text).getD (Within.all text)

/-- A comparison sign; of two that fit, the longer one. -/
def comparison? : List Char → Option (Comparison × List Char)
  | '=' :: '=' :: rest => some (.equal, rest)
  | '=' :: '~' :: rest => some (.like, rest)
  | '!' :: '=' :: rest => some (.unequal, rest)
  | '!' :: '~' :: rest => some (.unlike, rest)
  | '<' :: '=' :: rest => some (.atMost, rest)
  | '>' :: '=' :: rest => some (.atLeast, rest)
  | '=' :: rest => some (.equal, rest)
  | '~' :: rest => some (.like, rest)
  | '<' :: rest => some (.less, rest)
  | '>' :: rest => some (.greater, rest)
  | _ => none

/-- The characters up to a closing quote. -/
def quotedText? (quote : Char) : List Char → Option (List Char × List Char)
  | [] => none
  | '\\' :: [] => none
  | '\\' :: c :: rest =>
    (quotedText? quote rest).map fun (content, after) => (c :: content, after)
  | c :: rest =>
    if c = quote then some ([], rest)
    else (quotedText? quote rest).map fun (content, after) => (c :: content, after)

/-- The other side of a comparison. -/
def operand? (text : List Char) : Option (Operand × List Char) :=
  match text with
  | [] => none
  | c :: rest =>
    if c = '"' ∨ c = '\x27' then
      (quotedText? c rest).map fun (content, after) => (.text (String.ofList content), after)
    else
      (Binary64.read? (text.takeWhile isFieldChar)).map fun value =>
        (.number value, text.dropWhile isFieldChar)

/-- What follows a quoted text is shorter than what started with it. -/
theorem length_quotedText?_lt {quote : Char} {text content after : List Char}
    (hread : quotedText? quote text = some (content, after)) :
    after.length < text.length := by
  fun_induction quotedText? quote text generalizing content after with
  | case1 => cases hread
  | case2 => cases hread
  | case3 c rest ih =>
    obtain ⟨⟨inner, final⟩, hinner, heq⟩ := Option.map_eq_some_iff.1 hread
    cases heq
    have hshort := ih hinner
    simp only [List.length_cons]
    omega
  | case4 rest =>
    cases hread
    exact Nat.lt_succ_self _
  | case5 c rest _ _ _ ih =>
    obtain ⟨⟨inner, final⟩, hinner, heq⟩ := Option.map_eq_some_iff.1 hread
    cases heq
    exact Nat.lt_succ_of_lt (ih hinner)

/-- What follows the other side of a comparison is no longer than what started with it. -/
theorem length_operand?_le {text after : List Char} {operand : Operand}
    (hread : operand? text = some (operand, after)) : after.length ≤ text.length := by
  unfold operand? at hread
  split at hread
  · cases hread
  · split at hread
    · obtain ⟨⟨inner, final⟩, hinner, heq⟩ := Option.map_eq_some_iff.1 hread
      cases heq
      exact Nat.le_succ_of_le (Nat.le_of_lt (length_quotedText?_lt hinner))
    · obtain ⟨value, _, heq⟩ := Option.map_eq_some_iff.1 hread
      cases heq
      exact (List.dropWhile_suffix _).length_le

/-- What follows a comparison sign is shorter than what started with it. -/
theorem length_comparison?_lt {text after : List Char} {comparison : Comparison}
    (hread : comparison? text = some (comparison, after)) : after.length < text.length := by
  unfold comparison? at hread
  split at hread <;> cases hread <;> simp only [List.length_cons] <;> omega

/-- A comparison: a field, a sign and the other side. -/
def comparisonOf? (text : List Char) : Option (Selector × Shorter text) :=
  let field := text.takeWhile isFieldChar
  let afterField := text.dropWhile isFieldChar
  if field = [] then none
  else
    match hsign : comparison? (Text.trimStart afterField) with
    | none => none
    | some (comparison, afterSign) =>
      match hoperand : operand? (Text.trimStart afterSign) with
      | none => none
      | some (operand, rest) =>
        some (.compare (String.ofList field) comparison operand, ⟨rest, by
          have hfield : afterField.length ≤ text.length :=
            (List.dropWhile_suffix isFieldChar).length_le
          have htrim := Text.length_trimStart_le afterField
          have hshort := length_comparison?_lt hsign
          have htrimSign := Text.length_trimStart_le afterSign
          have hrest := length_operand?_le hoperand
          omega⟩)

/-- The text after a closing parenthesis. -/
def closing? (text : List Char) : Option (Shorter text) :=
  match htext : Text.trimStart text with
  | ')' :: rest => some ⟨rest, by
      have hlength := Text.length_trimStart_le text
      rw [htext] at hlength
      exact Nat.lt_of_succ_le hlength⟩
  | _ => none

/-- The text after an opening parenthesis. -/
def opening? (text : List Char) : Option (Shorter text) :=
  match text with
  | '(' :: rest => some (Shorter.tail '(' rest)
  | _ => none

/-- No further operand of `AND` can start here: the text or a parenthesis ends, or `OR` comes. -/
def endsConjunction (text : List Char) : Bool :=
  match text with
  | [] => true
  | c :: _ => c = ')' || (keywordOr? text).isSome

mutual

/-- A comparison, a selector in parentheses, or the negation of one of these. -/
def unary? (text : List Char) : Option (Selector × Shorter text) :=
  let start := unspaced text
  match keywordNot? start.1 with
  | some after =>
    have hshort : after.1.length < text.length := Nat.lt_of_lt_of_le after.2 start.2
    match unary? after.1 with
    | none => none
    | some (inner, rest) => some (.negate inner, ⟨rest.1, Nat.lt_trans rest.2 hshort⟩)
  | none =>
    match opening? start.1 with
    | some after =>
      have hshort : after.1.length < text.length := Nat.lt_of_lt_of_le after.2 start.2
      match either? after.1 with
      | none => none
      | some (inner, afterInner) =>
        match closing? afterInner.1 with
        | none => none
        | some rest =>
          some (inner, ⟨rest.1, Nat.lt_trans rest.2 (Nat.lt_trans afterInner.2 hshort)⟩)
    | none =>
      match comparisonOf? start.1 with
      | none => none
      | some (selector, rest) => some (selector, rest.weaken start.2)
termination_by (text.length, 0)

/-- Operands of `AND`, written or left out. -/
def both? (text : List Char) : Option (Selector × Shorter text) :=
  match unary? text with
  | none => none
  | some (left, after) =>
    match bothFrom? left after.1 with
    | none => none
    | some (selector, rest) => some (selector, ⟨rest.1, Nat.lt_of_le_of_lt rest.2 after.2⟩)
termination_by (text.length, 1)

/-- Further operands of `AND` after the first ones. -/
def bothFrom? (left : Selector) (text : List Char) : Option (Selector × Within text) :=
  let start := unspaced text
  if endsConjunction start.1 then some (left, start)
  else
    let next := afterAnd start.1
    have hnext : next.1.length ≤ text.length := Nat.le_trans next.2 start.2
    match unary? next.1 with
    | none => none
    | some (right, after) =>
      have hshort : after.1.length < text.length := Nat.lt_of_lt_of_le after.2 hnext
      match bothFrom? (.both left right) after.1 with
      | none => none
      | some (selector, rest) =>
        some (selector, ⟨rest.1, Nat.le_of_lt (Nat.lt_of_le_of_lt rest.2 hshort)⟩)
termination_by (text.length, 1)
decreasing_by
  · exact Prod.Lex.right' _ hnext (by decide)
  · exact Prod.Lex.left _ _ hshort

/-- Operands of `OR`. -/
def either? (text : List Char) : Option (Selector × Shorter text) :=
  match both? text with
  | none => none
  | some (left, after) =>
    match eitherFrom? left after.1 with
    | none => none
    | some (selector, rest) => some (selector, ⟨rest.1, Nat.lt_of_le_of_lt rest.2 after.2⟩)
termination_by (text.length, 2)

/-- Further operands of `OR` after the first ones. -/
def eitherFrom? (left : Selector) (text : List Char) : Option (Selector × Within text) :=
  let start := unspaced text
  match keywordOr? start.1 with
  | none => some (left, start)
  | some next =>
    have hnext : next.1.length < text.length := Nat.lt_of_lt_of_le next.2 start.2
    match both? next.1 with
    | none => none
    | some (right, after) =>
      have hshort : after.1.length < text.length := Nat.lt_trans after.2 hnext
      match eitherFrom? (.either left right) after.1 with
      | none => none
      | some (selector, rest) =>
        some (selector, ⟨rest.1, Nat.le_of_lt (Nat.lt_of_le_of_lt rest.2 hshort)⟩)
termination_by (text.length, 2)

end

/-- The selector that a whole text says. -/
def read (text : String) : Except Fault Selector :=
  match either? text.toList with
  | none => .error .invalidFilter
  | some (selector, rest) =>
    if Text.trimStart rest.1 = [] then .ok selector else .error .invalidFilter

end MetricBridge.Selector
