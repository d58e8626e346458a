/-
# How many calls the reading of a selector takes

The three levels of the reader call each other, and two of them call in a loop. Here they run with
a limit on how deep the calls may go and how often a loop may go round, and nothing is said
beforehand about what is left of a text: a run that does not come to an end within its limit is
stopped. Every run counts the calls that it makes.

The calls are paid by the text. A text is worth three calls for each of its characters and three
more; a run with a limit of its worth ends, gives what the reader gives, and has not made more calls
than its text is worth less what it leaves of it. So a text is read, or refused, after at most
`3 * n + 3` calls, where `n` is its length.
-/

import Mathlib
import MetricBridge.Proofs.Selector.Progress

namespace MetricBridge.Selector

/-! ### Runs -/

/-- How a run ends: it was stopped at its limit, or it has made its calls and gives something, or
nothing where the text is refused. -/
inductive Run (α : Type) where
  | stopped
  | ended (calls : Nat) (result : Option α)

namespace Run

variable {α β : Type}

/-- A run, and another one with what the first one gives. -/
def andThen (run : Run α) (next : α → Run β) : Run β :=
  match run with
  | stopped => stopped
  | ended calls none => ended calls none
  | ended calls (some value) =>
    match next value with
    | stopped => stopped
    | ended more result => ended (calls + more) result

instance : Monad Run where
  pure value := ended 0 (some value)
  bind := andThen

instance : MonadLift Option Run where
  monadLift := ended 0

/-- The run as a call, which counts itself. -/
def asCall : Run α → Run α
  | stopped => stopped
  | ended calls result => ended (calls + 1) result

/-- A loop that goes round as often as the limit allows. -/
def rounds (round : α → Run (Round α)) : (limit : Nat) → (state : α) → Run α
  | 0, _ => stopped
  | limit + 1, state => do
    match ← round state with
    | .done last => pure last
    | .again next => rounds round limit next

end Run

mutual

/-- The lowest level with a limit. -/
def unaryWithin : (limit : Nat) → (text : List Char) → Run (Selector × List Char)
  | 0, _ => .stopped
  | limit + 1, text => (unaryOnce (unaryWithin limit) (eitherWithin limit) text).asCall

/-- Operands of `AND` with a limit. -/
def bothWithin : (limit : Nat) → (text : List Char) → Run (Selector × List Char)
  | 0, _ => .stopped
  | limit + 1, text =>
    (unaryWithin limit text >>= Run.rounds (bothRound (unaryWithin limit)) limit).asCall

/-- Operands of `OR` with a limit. -/
def eitherWithin : (limit : Nat) → (text : List Char) → Run (Selector × List Char)
  | 0, _ => .stopped
  | limit + 1, text =>
    (bothWithin limit text >>= Run.rounds (eitherRound (bothWithin limit)) limit).asCall

end

/-- A whole text with a limit. -/
def readWithin (limit : Nat) (text : String) : Run Selector := do
  let read ← eitherWithin limit text.toList
  liftM (if Text.trimStart read.2 = [] then some read.1 else none)

/-! ### Paying for calls -/

/-- What a text is worth in calls. -/
def worth (text : List Char) : Nat :=
  3 * (text.length + 1)

namespace Run

variable {α β : Type} {left : α → List Char} {budget : Nat}

/-- The run ends with the result, and its calls and what it leaves are within the budget. -/
def Pays (run : Run α) (left : α → List Char) (result : Option α) (budget : Nat) : Prop :=
  ∃ calls, run = .ended calls result ∧
    calls + (result.elim 0 fun value => worth (left value)) ≤ budget

theorem pays_lift {result : Option α} (hleft : ∀ value ∈ result, worth (left value) ≤ budget) :
    (liftM result : Run α).Pays left result budget := by
  refine ⟨0, rfl, ?_⟩
  cases result with
  | none => exact Nat.zero_le _
  | some value => simpa using hleft value rfl

theorem pays_pure {value : α} (hleft : worth (left value) ≤ budget) :
    (pure value : Run α).Pays left (some value) budget :=
  ⟨0, rfl, by simpa using hleft⟩

namespace Pays

variable {run : Run α} {result : Option α}

theorem mono {more : Nat} (hpays : run.Pays left result budget) (hle : budget ≤ more) :
    run.Pays left result more := by
  obtain ⟨calls, hrun, hcalls⟩ := hpays
  exact ⟨calls, hrun, hcalls.trans hle⟩

theorem asCall (hpays : run.Pays left result budget) :
    run.asCall.Pays left result (budget + 1) := by
  obtain ⟨calls, rfl, hcalls⟩ := hpays
  exact ⟨calls + 1, rfl, by omega⟩

/-- What a run leaves pays for the run behind it. -/
theorem bind {later : β → List Char} {next : α → Run β} {give : α → Option β}
    (hpays : run.Pays left result budget)
    (hnext : ∀ value ∈ result, (next value).Pays later (give value) (worth (left value))) :
    (run >>= next).Pays later (result >>= give) budget := by
  obtain ⟨calls, rfl, hcalls⟩ := hpays
  cases result with
  | none => exact ⟨calls, rfl, hcalls⟩
  | some value =>
    obtain ⟨more, hmore, hle⟩ := hnext value rfl
    refine ⟨calls + more, ?_, ?_⟩
    · show andThen _ _ = _
      simp only [andThen, hmore]
      rfl
    · simp only [Option.elim_some] at hcalls
      show calls + more + (give value).elim 0 _ ≤ budget
      omega

end Pays

end Run

/-- A loop is paid for if each of its rounds is. -/
theorem pays_rounds {α : Type} {pureRound : α × List Char → Option (Round (α × List Char))}
    {loop : α × List Char → Option (α × List Char)}
    {round : α × List Char → Run (Round (α × List Char))} (bound : Nat)
    (hgoes : ∀ state, Goes pureRound loop state)
    (hround : ∀ state : α × List Char, state.2.length ≤ bound →
      (round state).Pays (fun outcome => outcome.state.2) (pureRound state) (worth state.2))
    {limit : Nat} {state : α × List Char} (hlimit : state.2.length < limit)
    (hbound : state.2.length ≤ bound) :
    (Run.rounds round limit state).Pays Prod.snd (loop state) (worth state.2) := by
  induction limit generalizing state with
  | zero => exact absurd hlimit (Nat.not_lt_zero _)
  | succ limit ih =>
    -- What a round gives is what the loop gives, or what it gives from the next state on.
    let give : Round (α × List Char) → Option (α × List Char)
      | .done last => some last
      | .again next => loop next
    have hloop : loop state = pureRound state >>= give := by
      cases hgoes state with
      | refused hround hnone => rw [hround, hnone]; rfl
      | done hround hdone => rw [hround, hdone]; rfl
      | again hround hnext => rw [hround, hnext]; rfl
    rw [hloop]
    refine (hround state hbound).bind fun outcome houtcome => ?_
    cases outcome with
    | done last => exact Run.pays_pure le_rfl
    | again next =>
      have hshort : next.2.length < state.2.length := by
        cases hgoes state with
        | refused hround => rw [hround] at houtcome; cases houtcome
        | done hround => rw [hround] at houtcome; cases houtcome
        | again hround hnext hadvances =>
          rw [hround] at houtcome
          cases houtcome
          exact hadvances.length_lt
      exact ih (by omega) (by omega)

section Levels

variable {unary both either : List Char → Run (Selector × List Char)} {text : List Char}

theorem pays_unaryOnce
    (hunary : ∀ later, later.length < text.length →
      (unary later).Pays Prod.snd (plain (unary? later)) (worth later))
    (heither : ∀ later, later.length < text.length →
      (either later).Pays Prod.snd (plain (either? later)) (worth later)) :
    (unaryOnce unary either text).Pays Prod.snd (plain (unary? text)) (3 * text.length) := by
  rw [plain_unary?_eq_once]
  unfold unaryOnce
  split
  next rest heat =>
    have hshort := length_lt_of_eat heat
    refine ((hunary rest hshort).mono ?_).bind fun inner hinner => Run.pays_pure le_rfl
    unfold worth
    omega
  next start heat =>
    have hstart : start.length ≤ text.length := by
      have hsuffix := eat_suffix ['N', 'O', 'T'] text
      rw [heat] at hsuffix
      exact hsuffix.length_le
    cases opening? start with
    | some rest =>
      have hshort : rest.1.length < text.length := rest.2.trans_le hstart
      refine ((heither rest.1 hshort).mono ?_).bind fun inner hinner => ?_
      · unfold worth
        omega
      · have hclosing : (liftM ((closing? inner.2).map Subtype.val) : Run (List Char)).Pays id
            ((closing? inner.2).map Subtype.val) (worth inner.2) := by
          refine Run.pays_lift fun final hfinal => ?_
          obtain ⟨after, -, rfl⟩ := Option.map_eq_some_iff.1 hfinal
          have hafter := after.2
          simp only [worth, id_eq]
          omega
        exact hclosing.bind fun final hfinal => Run.pays_pure le_rfl
    | none =>
      refine Run.pays_lift fun read hread => ?_
      have hshort := fact_of_plain hread
      unfold worth
      omega

theorem pays_bothRound {state : Selector × List Char}
    (hunary : ∀ later, later.length ≤ state.2.length →
      (unary later).Pays Prod.snd (plain (unary? later)) (worth later)) :
    (bothRound unary state).Pays (fun outcome => outcome.state.2)
      (bothRound (fun text => plain (unary? text)) state) (worth state.2) := by
  unfold bothRound
  split
  · refine Run.pays_pure ?_
    have hlength := (trimStart_suffix state.2).length_le
    simp only [worth, Round.state]
    omega
  · have hlength := (eat_suffix ['A', 'N', 'D'] state.2).length_le
    refine ((hunary _ hlength).mono ?_).bind fun right hright => Run.pays_pure le_rfl
    unfold worth
    omega

theorem pays_eitherRound {state : Selector × List Char}
    (hboth : ∀ later, later.length < state.2.length →
      (both later).Pays Prod.snd (plain (both? later)) (worth later)) :
    (eitherRound both state).Pays (fun outcome => outcome.state.2)
      (eitherRound (fun text => plain (both? text)) state) (worth state.2) := by
  unfold eitherRound
  split
  next rest heat =>
    refine Run.pays_pure ?_
    have hlength : rest.length ≤ state.2.length := by
      have hsuffix := eat_suffix ['O', 'R'] state.2
      rw [heat] at hsuffix
      exact hsuffix.length_le
    simp only [worth, Round.state]
    omega
  next rest heat =>
    have hshort := length_lt_of_eat heat
    refine ((hboth rest hshort).mono ?_).bind fun right hright => Run.pays_pure le_rfl
    unfold worth
    omega

end Levels

/-- A level ends within a limit of as many calls as its text is worth, and pays them. The levels
below need one and two fewer. -/
theorem pays_levels {limit : Nat} {text : List Char} :
    (3 * text.length + 1 ≤ limit →
      (unaryWithin limit text).Pays Prod.snd (plain (unary? text)) (3 * text.length + 1)) ∧
    (3 * text.length + 2 ≤ limit →
      (bothWithin limit text).Pays Prod.snd (plain (both? text)) (3 * text.length + 2)) ∧
    (3 * text.length + 3 ≤ limit →
      (eitherWithin limit text).Pays Prod.snd (plain (either? text)) (3 * text.length + 3)) := by
  induction limit generalizing text with
  | zero => exact ⟨by omega, by omega, by omega⟩
  | succ limit ih =>
    have hunary {later : List Char} (hlater : 3 * later.length + 1 ≤ limit) :
        (unaryWithin limit later).Pays Prod.snd (plain (unary? later)) (3 * later.length + 1) :=
      ih.1 hlater
    have hboth {later : List Char} (hlater : 3 * later.length + 2 ≤ limit) :
        (bothWithin limit later).Pays Prod.snd (plain (both? later)) (3 * later.length + 2) :=
      ih.2.1 hlater
    have heither {later : List Char} (hlater : 3 * later.length + 3 ≤ limit) :
        (eitherWithin limit later).Pays Prod.snd (plain (either? later)) (3 * later.length + 3) :=
      ih.2.2 hlater
    refine ⟨fun hlimit => ?_, fun hlimit => ?_, fun hlimit => ?_⟩
    · rw [unaryWithin]
      refine Run.Pays.asCall (pays_unaryOnce (fun later hlater => ?_) fun later hlater => ?_)
      · exact (hunary (by omega)).mono (by unfold worth; omega)
      · exact (heither (by omega)).mono (by unfold worth; omega)
    · rw [bothWithin, plain_both?]
      refine Run.Pays.asCall ((hunary (by omega)).bind fun first hfirst => ?_)
      have hshort := fact_of_plain hfirst
      refine pays_rounds (text.length - 1) (fun state => (joinsOperands_both state).1)
        (fun state hstate => ?_) ?_ ?_
      · exact pays_bothRound fun later hlater =>
          (hunary (by omega)).mono (by unfold worth; omega)
      · omega
      · omega
    · rw [eitherWithin, plain_either?]
      refine Run.Pays.asCall ((hboth (by omega)).bind fun first hfirst => ?_)
      have hshort := fact_of_plain hfirst
      refine pays_rounds (text.length - 1) (fun state => (joinsOperands_either state).1)
        (fun state hstate => ?_) ?_ ?_
      · exact pays_eitherRound fun later hlater =>
          (hboth (by omega)).mono (by unfold worth; omega)
      · omega
      · omega

theorem toOption_read (text : String) :
    (read text).toOption = plain (either? text.toList) >>= fun found =>
      if Text.trimStart found.2 = [] then some found.1 else none := by
  unfold read
  cases either? text.toList with
  | none => rfl
  | some found =>
    show (if Text.trimStart found.2.1 = [] then _ else _ : Except Fault Selector).toOption =
      if Text.trimStart found.2.1 = [] then some found.1 else none
    split <;> rfl

theorem readWithin_eq_ended {text : String} {limit : Nat} (hlimit : 3 * text.length + 3 ≤ limit) :
    ∃ calls ≤ 3 * text.length + 3,
      readWithin limit text = .ended calls (read text).toOption := by
  have heither := (@pays_levels limit text.toList).2.2 hlimit
  have hread : (readWithin limit text).Pays (fun _ => []) (read text).toOption
      (3 * text.length + 3) := by
    rw [toOption_read]
    refine heither.bind fun found hfound => Run.pays_lift fun selector hselector => ?_
    simp only [worth, List.length_nil]
    omega
  obtain ⟨calls, hrun, hcalls⟩ := hread
  exact ⟨calls, by omega, hrun⟩

/-- Every level takes something from the front of its text and leaves the end of it. A keyword or a
further operand that does not come costs blanks at most. Each round of a loop, over operands or over
the characters of a quoted text, ends the loop or goes on further down the text. So a text is read
or refused, and that takes no more calls of the levels than three for each character and three
more. -/
theorem read_progresses :
    (∀ text selector,
      (∀ rest, unary? text = some (selector, rest) → Advances text rest.1) ∧
      (∀ rest, both? text = some (selector, rest) → Advances text rest.1) ∧
      (∀ rest, either? text = some (selector, rest) → Advances text rest.1)) ∧
    (∀ letters text rest, eat letters text = (false, rest) → TakesBlanks text rest) ∧
    JoinsOperands (bothRound fun text => plain (unary? text))
      (fun state => plain (bothFrom? state.1 state.2)) ∧
    JoinsOperands (eitherRound fun text => plain (both? text))
      (fun state => plain (eitherFrom? state.1 state.2)) ∧
    (∀ quote state, Goes (quotedRound quote) (quotedFrom quote) state) ∧
    ∀ (text : String) (limit : Nat), 3 * text.length + 3 ≤ limit →
      ∃ calls ≤ 3 * text.length + 3,
        readWithin limit text = .ended calls (read text).toOption := by
  refine ⟨fun text selector => ?_, fun letters text rest => takesBlanks_of_eat,
    joinsOperands_both, joinsOperands_either, goes_quotedRound,
    fun text limit => readWithin_eq_ended⟩
  obtain ⟨hunary, hboth, heither⟩ := leavesEnd_levels text
  have hplain {reader : (text : List Char) → Option (Selector × Text.Shorter text)}
      {rest : Text.Shorter text} (hread : reader text = some (selector, rest)) :
      plain (reader text) = some (selector, rest.1) := by
    rw [hread]
    rfl
  exact ⟨fun rest hread => advances_of_leavesEnd hunary List.suffix_rfl (hplain hread),
    fun rest hread => advances_of_leavesEnd hboth List.suffix_rfl (hplain hread),
    fun rest hread => advances_of_leavesEnd heither List.suffix_rfl (hplain hread)⟩

/-- Parentheses that are opened and never closed take all of these calls. -/
example : readWithin 12 "(((" = .ended 12 none := by
  cbv

end MetricBridge.Selector
