/-
# Reading a selector goes on down the text

Whatever a reader of selectors gives, it has taken something from the front of its text and leaves
the end of it. Looking for a keyword that is not there takes blanks at most.

Three readers are loops: the operands of `AND`, those of `OR`, and the characters between two
quotes. Each of them is told here by one round of it. A round ends the loop, with a result or
because the text is refused, or it goes on with a text that is properly shorter. The rounds of the
two joining loops are stated for any way to read an operand, so that they can be followed with
the readers themselves and with readers that keep an account of what they do.
-/

import Mathlib
import MetricBridge.Proofs.Selector.Levels

namespace MetricBridge.Selector

open Text (Shorter Within IsBlankText)

/-- Something was taken from the front of the text, and the rest was left. -/
def Advances (text rest : List Char) : Prop :=
  ∃ taken, taken ≠ [] ∧ text = taken ++ rest

/-- Blanks were taken from the front of the text, or nothing, and the rest was left. -/
def TakesBlanks (text rest : List Char) : Prop :=
  ∃ blanks, IsBlankText blanks ∧ text = blanks ++ rest

theorem Advances.length_lt {text rest : List Char} (hadvances : Advances text rest) :
    rest.length < text.length := by
  obtain ⟨taken, hne, rfl⟩ := hadvances
  have hpos := List.length_pos_of_ne_nil hne
  rw [List.length_append]
  omega

theorem advances_of_suffix {text rest : List Char} (hsuffix : rest <:+ text)
    (hshort : rest.length < text.length) : Advances text rest := by
  obtain ⟨taken, rfl⟩ := hsuffix
  refine ⟨taken, ?_, rfl⟩
  rintro rfl
  exact absurd hshort (Nat.lt_irrefl _)

/-! ### Parts -/

theorem trimStart_suffix (text : List Char) : Text.trimStart text <:+ text :=
  List.dropWhile_suffix Text.isBlank

theorem keyword?_suffix {letters text : List Char} {rest : Within text}
    (hread : keyword? letters text = some rest) : rest.1 <:+ text := by
  induction letters generalizing text with
  | nil =>
    rw [keyword?] at hread
    split at hread
    · cases hread
      exact List.suffix_rfl
    · cases hread
  | cons letter letters ih =>
    cases text with
    | nil => cases hread
    | cons c text =>
      rw [keyword?] at hread
      split at hread
      · obtain ⟨after, hafter, rfl⟩ := Option.map_eq_some_iff.1 hread
        exact (ih hafter).trans (List.suffix_cons c text)
      · cases hread

theorem length_lt_of_keyword? {letter : Char} {letters text : List Char} {rest : Within text}
    (hread : keyword? (letter :: letters) text = some rest) : rest.1.length < text.length := by
  cases text with
  | nil => cases hread
  | cons c text =>
    rw [keyword?] at hread
    split at hread
    · obtain ⟨after, -, rfl⟩ := Option.map_eq_some_iff.1 hread
      exact Nat.lt_succ_of_le after.2
    · cases hread

theorem quotedText?_suffix {quote : Char} {text content rest : List Char}
    (hread : quotedText? quote text = some (content, rest)) : rest <:+ text := by
  obtain ⟨body, rfl, -⟩ := quotes_of_quotedText? hread
  exact (List.suffix_cons quote rest).trans (List.suffix_append body _)

theorem comparison?_suffix {text rest : List Char} {comparison : Comparison}
    (hread : comparison? text = some (comparison, rest)) : rest <:+ text := by
  unfold comparison? at hread
  split at hread <;> cases hread <;>
    first
    | exact List.suffix_cons _ _
    | exact (List.suffix_cons _ _).trans (List.suffix_cons _ _)

theorem operand?_suffix {text rest : List Char} {operand : Operand}
    (hread : operand? text = some (operand, rest)) : rest <:+ text := by
  unfold operand? at hread
  split at hread
  next => cases hread
  next c after =>
    split at hread
    next =>
      obtain ⟨⟨inner, final⟩, hinner, heq⟩ := Option.map_eq_some_iff.1 hread
      cases heq
      exact (quotedText?_suffix hinner).trans (List.suffix_cons c after)
    next =>
      obtain ⟨_, _, heq⟩ := Option.map_eq_some_iff.1 hread
      cases heq
      exact List.dropWhile_suffix isFieldChar

theorem comparisonOf?_suffix {text rest : List Char} {selector : Selector}
    (hread : plain (comparisonOf? text) = some (selector, rest)) : rest <:+ text := by
  obtain ⟨-, comparison, afterSign, operand, hsign, hoperand, -⟩ :=
    plain_comparisonOf?_eq_some_iff.1 hread
  calc rest <:+ Text.trimStart afterSign := operand?_suffix hoperand
    _ <:+ afterSign := trimStart_suffix afterSign
    _ <:+ Text.trimStart (text.dropWhile isFieldChar) := comparison?_suffix hsign
    _ <:+ text.dropWhile isFieldChar := trimStart_suffix _
    _ <:+ text := List.dropWhile_suffix isFieldChar

/-! ### Looking for a keyword -/

/-- Passes over blanks and a keyword behind them, and over the blanks only where that keyword does
not come; tells which. -/
def eat (letters text : List Char) : Bool × List Char :=
  match keyword? letters (Text.trimStart text) with
  | some rest => (true, rest.1)
  | none => (false, Text.trimStart text)

theorem eat_suffix (letters text : List Char) : (eat letters text).2 <:+ text := by
  unfold eat
  split
  next rest hread => exact (keyword?_suffix hread).trans (trimStart_suffix text)
  next => exact trimStart_suffix text

/-- A keyword that comes takes its letters at least. -/
theorem length_lt_of_eat {letter : Char} {letters text rest : List Char}
    (heat : eat (letter :: letters) text = (true, rest)) : rest.length < text.length := by
  unfold eat at heat
  split at heat
  next after hread =>
    cases heat
    exact (length_lt_of_keyword? hread).trans_le (trimStart_suffix text).length_le
  next => cases heat

/-- A keyword that does not come costs blanks at most. -/
theorem takesBlanks_of_eat {letters text rest : List Char}
    (heat : eat letters text = (false, rest)) : TakesBlanks text rest := by
  unfold eat at heat
  split at heat
  next => cases heat
  next =>
    cases heat
    exact Text.exists_isBlankText_append_trimStart text

theorem eat_of_some {letters text rest : List Char}
    (hread : (keyword? letters (Text.trimStart text)).map Subtype.val = some rest) :
    eat letters text = (true, rest) := by
  obtain ⟨after, hafter, rfl⟩ := Option.map_eq_some_iff.1 hread
  unfold eat
  rw [hafter]

theorem eat_of_none {letters text : List Char}
    (hread : keyword? letters (Text.trimStart text) = none) :
    eat letters text = (false, Text.trimStart text) := by
  unfold eat
  rw [hread]

/-- The reader of operands of `AND` passes over the keyword in this way too. -/
theorem val_afterAnd_trimStart (text : List Char) :
    (afterAnd (Text.trimStart text)).1 = (eat ['A', 'N', 'D'] text).2 := by
  cases hand : keyword? ['A', 'N', 'D'] (Text.trimStart text) with
  | none => rw [val_afterAnd_of_none hand, eat_of_none hand]
  | some rest =>
    have hval : (keyword? ['A', 'N', 'D'] (Text.trimStart text)).map Subtype.val = some rest.1 := by
      rw [hand, Option.map_some]
    rw [eat_of_some hval, afterAnd, hand, Option.getD_some]

/-! ### Rounds -/

/-- How a round of a loop ends that is not refused: the loop goes on with a state, or it is done and
gives one. A state is what was read so far, with the text behind it. -/
inductive Round (σ : Type) where
  | again (state : σ)
  | done (state : σ)

/-- The state that a round comes to. -/
def Round.state {σ : Type} : Round σ → σ
  | again state => state
  | done state => state

section

variable {m : Type → Type} [Monad m] [MonadLiftT Option m]

/-- What the lowest level does, with readers for what stands behind `NOT` and for what stands
between parentheses. -/
def unaryOnce (unary either : List Char → m (Selector × List Char)) (text : List Char) :
    m (Selector × List Char) :=
  match eat ['N', 'O', 'T'] text with
  | (true, rest) => do
    let inner ← unary rest
    pure (.negate inner.1, inner.2)
  | (false, start) =>
    match opening? start with
    | some rest => do
      let inner ← either rest.1
      let final ← liftM ((closing? inner.2).map Subtype.val)
      pure (inner.1, final)
    | none => liftM (plain (comparisonOf? start))

omit [MonadLiftT Option m]

/-- A round over the operands of `AND`, with a reader for one operand. -/
def bothRound (operand : List Char → m (Selector × List Char)) (state : Selector × List Char) :
    m (Round (Selector × List Char)) :=
  if endsConjunction (Text.trimStart state.2) then
    pure (.done (state.1, Text.trimStart state.2))
  else do
    let right ← operand (eat ['A', 'N', 'D'] state.2).2
    pure (.again (.both state.1 right.1, right.2))

/-- A round over the operands of `OR`, with a reader for one operand. -/
def eitherRound (operand : List Char → m (Selector × List Char)) (state : Selector × List Char) :
    m (Round (Selector × List Char)) :=
  match eat ['O', 'R'] state.2 with
  | (false, rest) => pure (.done (state.1, rest))
  | (true, rest) => do
    let right ← operand rest
    pure (.again (.either state.1 right.1, right.2))

end

/-- A round over the characters of a quoted text. -/
def quotedRound (quote : Char) : (state : List Char × List Char) →
    Option (Round (List Char × List Char))
  | (_, []) => none
  | (_, '\\' :: []) => none
  | (content, '\\' :: c :: rest) => some (.again (content ++ [c], rest))
  | (content, c :: rest) =>
    if c = quote then some (.done (content, rest)) else some (.again (content ++ [c], rest))

/-- The characters up to the closing quote, behind those that were read before. -/
def quotedFrom (quote : Char) (state : List Char × List Char) : Option (List Char × List Char) :=
  (quotedText? quote state.2).map fun (content, rest) => (state.1 ++ content, rest)

/-- What a round makes of a loop. Either the loop ends with the round, or it goes on as if it had
been started where the round leaves it, and that is further down the text. -/
inductive Goes {α : Type} (round : α × List Char → Option (Round (α × List Char)))
    (loop : α × List Char → Option (α × List Char)) (state : α × List Char) : Prop
  | refused (hround : round state = none) (hloop : loop state = none)
  | done {last : α × List Char} (hround : round state = some (.done last))
      (hloop : loop state = some last) (hsuffix : last.2 <:+ state.2)
  | again {next : α × List Char} (hround : round state = some (.again next))
      (hloop : loop state = loop next) (hadvances : Advances state.2 next.2)

/-- A loop leaves the end of its text. -/
theorem suffix_of_goes {α : Type} {round : α × List Char → Option (Round (α × List Char))}
    {loop : α × List Char → Option (α × List Char)} {state last : α × List Char}
    (hgoes : ∀ later, later.2.length ≤ state.2.length → Goes round loop later)
    (hloop : loop state = some last) : last.2 <:+ state.2 := by
  induction hlength : state.2.length using Nat.strong_induction_on generalizing state with
  | _ length ih =>
    cases hgoes state le_rfl with
    | refused hround hnone =>
      rw [hnone] at hloop
      cases hloop
    | done hround hdone hsuffix =>
      rw [hdone] at hloop
      cases hloop
      exact hsuffix
    | again hround hnext hadvances =>
      have hshort := hadvances.length_lt
      rw [hnext] at hloop
      have hlast := ih _ (by omega) (fun later hlater => hgoes later (by omega)) hloop rfl
      obtain ⟨taken, -, heq⟩ := hadvances
      rw [heq]
      exact hlast.trans (List.suffix_append taken _)

theorem goes_quotedRound (quote : Char) (state : List Char × List Char) :
    Goes (quotedRound quote) (quotedFrom quote) state := by
  obtain ⟨content, text⟩ := state
  fun_cases quotedText? quote text with
  | case1 => exact .refused rfl rfl
  | case2 => exact .refused rfl rfl
  | case3 c rest =>
    have hloop : quotedFrom quote (content, '\\' :: c :: rest) =
        quotedFrom quote (content ++ [c], rest) := by
      simp [quotedFrom, quotedText?, Function.comp_def]
    exact .again rfl hloop ⟨['\\', c], List.cons_ne_nil _ _, rfl⟩
  | case4 rest hlast hescape =>
    have hround : quotedRound quote (content, quote :: rest) = some (.done (content, rest)) := by
      rw [quotedRound, if_pos rfl]
      · exact hlast
      · exact hescape
    have hread : quotedText? quote (quote :: rest) = some ([], rest) := by
      rw [quotedText?, if_pos rfl]
      · exact hlast
      · exact hescape
    have hloop : quotedFrom quote (content, quote :: rest) = some (content, rest) := by
      simp [quotedFrom, hread]
    exact .done hround hloop (List.suffix_cons quote rest)
  | case5 c rest hlast hescape hne =>
    have hround : quotedRound quote (content, c :: rest) =
        some (.again (content ++ [c], rest)) := by
      rw [quotedRound, if_neg hne]
      · exact hlast
      · exact hescape
    have hread : quotedText? quote (c :: rest) =
        (quotedText? quote rest).map fun (inner, after) => (c :: inner, after) := by
      rw [quotedText?, if_neg hne]
      · exact hlast
      · exact hescape
    have hloop : quotedFrom quote (content, c :: rest) =
        quotedFrom quote (content ++ [c], rest) := by
      rw [quotedFrom, hread]
      simp [quotedFrom, Function.comp_def]
    exact .again hround hloop ⟨[c], List.cons_ne_nil _ _, rfl⟩

/-! ### The levels by their rounds -/

theorem plain_unary?_eq_once (text : List Char) :
    plain (unary? text) =
      unaryOnce (fun text => plain (unary? text)) (fun text => plain (either? text)) text := by
  have hval := map_val_keywordNot? (Text.trimStart text)
  cases hnot : keywordNot? (Text.trimStart text) with
  | some after =>
    rw [hnot, Option.map_some] at hval
    rw [plain_unary?_of_not rfl hnot, unaryOnce, eat_of_some hval.symm]
    simp only
    cases plain (unary? after.1) <;> rfl
  | none =>
    rw [unaryOnce, eat_of_none (keywordNot?_eq_none_iff.1 hnot)]
    cases hopening : opening? (Text.trimStart text) with
    | some after =>
      rw [plain_unary?_of_opening rfl hnot hopening]
      simp only [hopening]
      cases plain (either? after.1) with
      | none => rfl
      | some read => cases hclosing : closing? read.2 <;> simp [hclosing, pure]
    | none =>
      rw [plain_unary?_of_comparison rfl hnot hopening]
      simp only [hopening]
      rfl

/-- What a reader left of a text is its end. -/
def LeavesEnd (text : List Char) (result : Option (Selector × List Char)) : Prop :=
  ∀ read ∈ result, read.2 <:+ text

/-- A level takes something from the front wherever it leaves the end. -/
theorem advances_of_leavesEnd {text taken : List Char} {read : Selector × List Char}
    {reader : (text : List Char) → Option (Selector × Shorter text)}
    (hends : LeavesEnd text (plain (reader text))) (hsuffix : text <:+ taken)
    (hread : plain (reader text) = some read) : Advances taken read.2 := by
  have hshort := fact_of_plain hread
  have hlength := hsuffix.length_le
  exact advances_of_suffix ((hends read hread).trans hsuffix) (by omega)

theorem goes_bothRound {state : Selector × List Char}
    (hends : ∀ text, text.length ≤ state.2.length →
      LeavesEnd text (plain (unary? text))) :
    Goes (bothRound fun text => plain (unary? text))
      (fun state => plain (bothFrom? state.1 state.2)) state := by
  obtain ⟨left, text⟩ := state
  cases hcloses : endsConjunction (Text.trimStart text) with
  | true =>
    have hround : bothRound (fun text => plain (unary? text)) (left, text) =
        some (.done (left, Text.trimStart text)) := by
      rw [bothRound, if_pos hcloses]
      rfl
    exact .done hround (plain_bothFrom?_of_ends hcloses) (trimStart_suffix text)
  | false =>
    have hsuffix := eat_suffix ['A', 'N', 'D'] text
    have hround : bothRound (fun text => plain (unary? text)) (left, text) =
        (plain (unary? (eat ['A', 'N', 'D'] text).2)).map fun right =>
          .again (.both left right.1, right.2) := by
      rw [bothRound, hcloses, if_neg Bool.false_ne_true]
      cases plain (unary? (eat ['A', 'N', 'D'] text).2) <;> rfl
    have hloop : plain (bothFrom? left text) = _ := plain_bothFrom?_of_continues hcloses
    rw [val_afterAnd_trimStart] at hloop
    cases hread : plain (unary? (eat ['A', 'N', 'D'] text).2) with
    | none =>
      rw [hread] at hround hloop
      exact .refused hround hloop
    | some right =>
      have hadvances := advances_of_leavesEnd (hends _ hsuffix.length_le) hsuffix hread
      rw [hread] at hround hloop
      exact .again hround hloop hadvances

theorem goes_eitherRound {state : Selector × List Char}
    (hends : ∀ text, text.length < state.2.length →
      LeavesEnd text (plain (both? text))) :
    Goes (eitherRound fun text => plain (both? text))
      (fun state => plain (eitherFrom? state.1 state.2)) state := by
  obtain ⟨left, text⟩ := state
  cases hor : keywordOr? (Text.trimStart text) with
  | none =>
    have hround : eitherRound (fun text => plain (both? text)) (left, text) =
        some (.done (left, Text.trimStart text)) := by
      rw [eitherRound, eat_of_none (keywordOr?_eq_none_iff.1 hor)]
      rfl
    exact .done hround (plain_eitherFrom?_of_none hor) (trimStart_suffix text)
  | some next =>
    have heat : eat ['O', 'R'] text = (true, next.1) :=
      eat_of_some (by rw [← map_val_keywordOr?, hor, Option.map_some])
    have hsuffix : next.1 <:+ text := by
      have heaten := eat_suffix ['O', 'R'] text
      rwa [heat] at heaten
    have hshort : next.1.length < text.length :=
      Nat.lt_of_lt_of_le next.2 (Text.length_trimStart_le text)
    have hround : eitherRound (fun text => plain (both? text)) (left, text) =
        (plain (both? next.1)).map fun right => .again (.either left right.1, right.2) := by
      rw [eitherRound, heat]
      simp only
      cases plain (both? next.1) <;> rfl
    have hloop : plain (eitherFrom? left text) = _ := plain_eitherFrom?_of_some hor
    cases hread : plain (both? next.1) with
    | none =>
      rw [hread] at hround hloop
      exact .refused hround hloop
    | some right =>
      have hadvances := advances_of_leavesEnd (hends _ hshort) hsuffix hread
      rw [hread] at hround hloop
      exact .again hround hloop hadvances

/-- That no further operand comes costs blanks at most. -/
theorem takesBlanks_bothRound {operand : List Char → Option (Selector × List Char)}
    {state last : Selector × List Char} (hround : bothRound operand state = some (.done last)) :
    last.1 = state.1 ∧ TakesBlanks state.2 last.2 := by
  unfold bothRound at hround
  split at hround
  · cases hround
    exact ⟨rfl, Text.exists_isBlankText_append_trimStart state.2⟩
  · obtain ⟨right, -, hagain⟩ := Option.bind_eq_some_iff.1 hround
    cases hagain

theorem takesBlanks_eitherRound {operand : List Char → Option (Selector × List Char)}
    {state last : Selector × List Char} (hround : eitherRound operand state = some (.done last)) :
    last.1 = state.1 ∧ TakesBlanks state.2 last.2 := by
  unfold eitherRound at hround
  split at hround
  next rest heat =>
    cases hround
    exact ⟨rfl, takesBlanks_of_eat heat⟩
  next =>
    obtain ⟨right, -, hagain⟩ := Option.bind_eq_some_iff.1 hround
    cases hagain

theorem leavesEnd_unary? {text : List Char}
    (hunary : ∀ later, later.length < text.length →
      LeavesEnd later (plain (unary? later)))
    (heither : ∀ later, later.length < text.length →
      LeavesEnd later (plain (either? later))) :
    LeavesEnd text (plain (unary? text)) := by
  have hstart := trimStart_suffix text
  have hlength := hstart.length_le
  intro read hread
  cases hnot : keywordNot? (Text.trimStart text) with
  | some after =>
    have hafter : after.1 <:+ text := by
      have hval := map_val_keywordNot? (Text.trimStart text)
      rw [hnot, Option.map_some] at hval
      have heaten := eat_suffix ['N', 'O', 'T'] text
      rwa [eat_of_some hval.symm] at heaten
    rw [plain_unary?_of_not rfl hnot] at hread
    obtain ⟨inner, hinner, rfl⟩ := Option.map_eq_some_iff.1 hread
    exact (hunary after.1 (by have := after.2; omega) inner hinner).trans hafter
  | none =>
    cases hopening : opening? (Text.trimStart text) with
    | some after =>
      have hafter : after.1 <:+ text := by
        rw [opening?_eq_some_iff.1 hopening] at hstart
        exact (List.suffix_cons '(' after.1).trans hstart
      rw [plain_unary?_of_opening rfl hnot hopening] at hread
      obtain ⟨inner, hinner, hclosing⟩ := Option.bind_eq_some_iff.1 hread
      obtain ⟨final, hfinal, rfl⟩ := Option.map_eq_some_iff.1 hclosing
      have hend : Text.trimStart inner.2 = ')' :: final.1 :=
        closing?_eq_some_iff.1 (by rw [hfinal, Option.map_some])
      have hinside : final.1 <:+ inner.2 := by
        refine List.IsSuffix.trans ?_ (trimStart_suffix inner.2)
        rw [hend]
        exact List.suffix_cons ')' final.1
      exact hinside.trans ((heither after.1 (by have := after.2; omega) inner hinner).trans hafter)
    | none =>
      rw [plain_unary?_of_comparison rfl hnot hopening] at hread
      exact (comparisonOf?_suffix hread).trans hstart

/-- Every level leaves the end of its text. -/
theorem leavesEnd_levels (text : List Char) :
    LeavesEnd text (plain (unary? text)) ∧ LeavesEnd text (plain (both? text)) ∧
      LeavesEnd text (plain (either? text)) := by
  have ih (later : List Char) (hlater : later.length < text.length) := leavesEnd_levels later
  have hunary : LeavesEnd text (plain (unary? text)) :=
    leavesEnd_unary? (fun later hlater => (ih later hlater).1)
      (fun later hlater => (ih later hlater).2.2)
  have hboth : LeavesEnd text (plain (both? text)) := by
    intro read hread
    rw [plain_both?] at hread
    obtain ⟨first, hfirst, hloop⟩ := Option.bind_eq_some_iff.1 hread
    have hshort := fact_of_plain hfirst
    refine List.IsSuffix.trans ?_ (hunary first hfirst)
    refine suffix_of_goes (fun state hstate => goes_bothRound fun later hlater => ?_) hloop
    exact (ih later (by omega)).1
  refine ⟨hunary, hboth, ?_⟩
  intro read hread
  rw [plain_either?] at hread
  obtain ⟨first, hfirst, hloop⟩ := Option.bind_eq_some_iff.1 hread
  have hshort := fact_of_plain hfirst
  refine List.IsSuffix.trans ?_ (hboth first hfirst)
  refine suffix_of_goes (fun state hstate => goes_eitherRound fun later hlater => ?_) hloop
  exact (ih later (by omega)).2.1
termination_by text.length

/-- A loop joins operands: each of its rounds does so further down the text, and the one that is
done has joined nothing and has taken blanks at most. -/
def JoinsOperands (round : Selector × List Char → Option (Round (Selector × List Char)))
    (loop : Selector × List Char → Option (Selector × List Char)) : Prop :=
  ∀ state, Goes round loop state ∧ ∀ last, round state = some (.done last) →
    last.1 = state.1 ∧ TakesBlanks state.2 last.2

theorem joinsOperands_both :
    JoinsOperands (bothRound fun text => plain (unary? text))
      (fun state => plain (bothFrom? state.1 state.2)) := fun _ =>
  ⟨goes_bothRound fun later _ => (leavesEnd_levels later).1, fun _ => takesBlanks_bothRound⟩

theorem joinsOperands_either :
    JoinsOperands (eitherRound fun text => plain (both? text))
      (fun state => plain (eitherFrom? state.1 state.2)) := fun _ =>
  ⟨goes_eitherRound fun later _ => (leavesEnd_levels later).2.1, fun _ => takesBlanks_eitherRound⟩

end MetricBridge.Selector
