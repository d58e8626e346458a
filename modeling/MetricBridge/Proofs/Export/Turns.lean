/-
# The order of turns does not matter

At every moment it can be told what an export comes to: the points in the queue and those that
the feeder has still to hand over are delivered one after the other, and the fault of the
read is added. No step of either side changes that, so it is told at the beginning. All that
the order of turns decides is when the export ends.

It does end, as soon as both sides have had their turns often enough. Each step that changes
anything brings the end nearer, and as long as the end is not reached one of the sides can take
such a step.
-/

import Mathlib
import MetricBridge.Proofs.Export.Calls

namespace MetricBridge.Export

namespace Feeding

/-- The points that are still to be put into the queue. -/
def toCome : Feeding → List Point
  | reading items => leading items
  | holding point items => point :: leading items
  | stopped _ => []

/-- The fault that the read ends with. -/
def failure? : Feeding → Option Fault
  | reading items | holding _ items => firstFault? items
  | stopped failure => failure

/-- A bound on the turns until the feeder has stopped, with those in which the writer takes what it
still puts into the queue. -/
def ahead : Feeding → Nat
  | reading items => 3 * items.length + 1
  | holding _ items => 3 * items.length + 3
  | stopped _ => 0

end Feeding

namespace Relay

variable {σ : Type} (device : Device σ) (buffering : Buffering)

/-! ### What an export comes to -/

/-- What the writer comes to, and what it has done by then. -/
def ending (relay : Relay σ) : Except Fault Nat × Progress σ :=
  match relay.outcome with
  | some outcome => (outcome, relay.progress)
  | none =>
    let written := relay.progress.deliver device buffering (relay.queue ++ relay.feeding.toCome)
    (outcomeOf written, written.2.part device)

/-- The result of the export, and what the writer has done by then. -/
def account (relay : Relay σ) : Except Fault Nat × Progress σ :=
  let ending := relay.ending device buffering
  (resultOf ending.1 relay.feeding.failure?, ending.2)

/-- The writer does not finish before the feeder has stopped. -/
def IsOrderly (relay : Relay σ) : Prop :=
  ∀ count, relay.outcome = some (.ok count) → ∃ failure, relay.feeding = .stopped failure

variable {device buffering} {relay : Relay σ}

/-- A writer that stops with what was to be expected keeps the account. -/
theorem account_stop {written : Option String × Progress σ} (hnone : relay.outcome = none)
    (hwritten : relay.progress.deliver device buffering (relay.queue ++ relay.feeding.toCome) =
      written) :
    (relay.stop device written).account device buffering = relay.account device buffering := by
  simp only [account, ending, stop, hnone, hwritten]

theorem account_feed (horderly : relay.IsOrderly) :
    relay.feed.account device buffering = relay.account device buffering := by
  obtain ⟨feeding, queue, progress, outcome⟩ := relay
  match feeding with
  | .reading [] => rfl
  | .reading (.error fault :: items) => rfl
  | .reading (.ok point :: items) => rfl
  | .holding point items =>
    rw [feed]
    split_ifs with hstopped hroom
    · -- nobody takes the point because a call was refused, and that is told before any fault
      match outcome, hstopped with
      | some (.error fault), _ => rfl
      | some (.ok count), _ =>
        obtain ⟨failure, hfeeding⟩ := horderly count rfl
        cases hfeeding
    · match outcome, hstopped with
      | none, _ =>
        simp only [account, ending, Feeding.toCome, Feeding.failure?, List.append_assoc,
          List.singleton_append]
    · rfl
  | .stopped failure => rfl

variable (device buffering relay) in
/-- What a step of the writer may come to. It waits if it has stopped or has nothing to do, it
puts a point, or it stops with what was to be expected. -/
inductive Works : Relay σ → Prop
  | waits (hidle : relay.outcome ≠ none ∨
      relay.queue = [] ∧ ∀ failure, relay.feeding ≠ .stopped failure) : Works relay
  | puts {point : Point} {rest : List Point} {reached : Progress σ} (hnone : relay.outcome = none)
      (hqueue : relay.queue = point :: rest)
      (hput : relay.progress.put device buffering point = (none, reached)) :
      Works { relay with progress := reached, queue := rest }
  | stops {written : Option String × Progress σ} (hnone : relay.outcome = none)
      (hwritten : relay.progress.deliver device buffering (relay.queue ++ relay.feeding.toCome) =
        written)
      (hended : written.1 = none → ∃ failure, relay.feeding = .stopped failure) :
      Works (relay.stop device written)

variable (device buffering) in
theorem works_work (relay : Relay σ) :
    relay.Works device buffering (relay.work device buffering) := by
  cases houtcome : relay.outcome with
  | some outcome =>
    have hwork : relay.work device buffering = relay := by rw [work, houtcome]
    rw [hwork]
    exact .waits (Or.inl (by simp [houtcome]))
  | none =>
    cases hqueue : relay.queue with
    | cons point rest =>
      cases hput : relay.progress.put device buffering point with
      | mk complaint reached =>
        cases complaint with
        | none =>
          have hwork : relay.work device buffering =
              { relay with progress := reached, queue := rest } := by
            simp only [work, houtcome, hqueue, hput]
          rw [hwork]
          exact .puts houtcome hqueue hput
        | some complaint =>
          have hwork : relay.work device buffering =
              relay.stop device (some complaint, reached) := by
            simp only [work, houtcome, hqueue, hput]
          rw [hwork]
          refine .stops houtcome ?_ nofun
          rw [hqueue, List.cons_append, Progress.deliver, hput]
    | nil =>
      cases hfeeding : relay.feeding with
      | stopped failure =>
        have hwork : relay.work device buffering =
            relay.stop device (relay.progress.finish device) := by
          simp only [work, houtcome, hqueue, hfeeding]
        rw [hwork]
        refine .stops houtcome ?_ fun _ => ⟨failure, hfeeding⟩
        rw [hqueue, hfeeding]
        rfl
      | reading items =>
        have hwork : relay.work device buffering = relay := by
          simp only [work, houtcome, hqueue, hfeeding]
        rw [hwork]
        exact .waits (Or.inr ⟨hqueue, by simp [hfeeding]⟩)
      | holding point items =>
        have hwork : relay.work device buffering = relay := by
          simp only [work, houtcome, hqueue, hfeeding]
        rw [hwork]
        exact .waits (Or.inr ⟨hqueue, by simp [hfeeding]⟩)

theorem Works.account {reached : Relay σ} (hworks : relay.Works device buffering reached) :
    reached.account device buffering = relay.account device buffering := by
  cases hworks with
  | waits => rfl
  | puts hnone hqueue hput =>
    simp only [Relay.account, ending, hnone, hqueue, List.cons_append, Progress.deliver, hput]
  | stops hnone hwritten hended => exact account_stop hnone hwritten

theorem Works.isOrderly {reached : Relay σ} (hworks : relay.Works device buffering reached)
    (horderly : relay.IsOrderly) : reached.IsOrderly := by
  cases hworks with
  | waits => exact horderly
  | puts hnone hqueue hput => exact horderly
  | @stops written hnone hwritten hended =>
    intro count hcount
    rcases written with ⟨_ | complaint, progress⟩
    · exact hended rfl
    · cases hcount

theorem feed_of_stopped {failure : Option Fault} (hstopped : relay.feeding = .stopped failure) :
    relay.feed = relay := by rw [feed, hstopped]

theorem outcome_feed : relay.feed.outcome = relay.outcome := by
  rw [feed]
  split <;> try rfl
  split_ifs <;> rfl

theorem isOrderly_feed (horderly : relay.IsOrderly) : relay.feed.IsOrderly := by
  intro count hcount
  rw [outcome_feed] at hcount
  obtain ⟨failure, hstopped⟩ := horderly count hcount
  exact ⟨failure, by rw [feed_of_stopped hstopped, hstopped]⟩

variable (device buffering) in
/-- A turn of either side keeps the account. -/
theorem account_step (horderly : relay.IsOrderly) (side : Side) :
    (relay.step device buffering side).IsOrderly ∧
      (relay.step device buffering side).account device buffering =
        relay.account device buffering := by
  cases side with
  | feeder => exact ⟨isOrderly_feed horderly, account_feed horderly⟩
  | writer =>
    have hworks := works_work device buffering relay
    exact ⟨hworks.isOrderly horderly, hworks.account⟩

variable (device buffering) in
theorem account_run (horderly : relay.IsOrderly) (sides : List Side) :
    (relay.run device buffering sides).account device buffering =
      relay.account device buffering := by
  induction sides generalizing relay with
  | nil => rfl
  | cons side rest ih =>
    obtain ⟨hnext, haccount⟩ := account_step device buffering horderly side
    exact (ih hnext).trans haccount

theorem account_of_result? {result : Except Fault Nat} (hresult : relay.result? = some result) :
    relay.account device buffering = (result, relay.progress) := by
  rw [result?] at hresult
  split at hresult
  next failure outcome hfeeding houtcome =>
    cases hresult
    rw [account, ending, houtcome, hfeeding]
    rfl
  next => cases hresult

variable (device buffering) in
/-- Whatever the order of turns, an export that has ended comes to what delivering the points
before the first fault comes to. -/
theorem ending_of_run {items : List Item} {state : σ} {sides : List Side}
    {result : Except Fault Nat}
    (hresult : ((start items state).run device buffering sides).result? = some result) :
    let written := (Progress.start state).deliver device buffering (leading items)
    ((start items state).run device buffering sides).progress = written.2.part device ∧
      result = resultOf (outcomeOf written) (firstFault? items) := by
  intro written
  have horderly : (start items state).IsOrderly := nofun
  have haccount := account_run device buffering horderly sides
  rw [account_of_result? hresult, Prod.ext_iff] at haccount
  exact ⟨haccount.2, haccount.1⟩

/-! ### Every export ends -/

/-- A bound on the turns of either side that are left. -/
def remaining (relay : Relay σ) : Nat :=
  relay.feeding.ahead + if relay.outcome.isNone then relay.queue.length + 1 else 0

/-- A turn of the feeder brings the end nearer, unless it has stopped or waits for room. -/
theorem remaining_feed (relay : Relay σ) :
    relay.feed.remaining < relay.remaining ∨
      relay.feed = relay ∧ ((∃ failure, relay.feeding = .stopped failure) ∨
        relay.outcome = none ∧ relay.queue ≠ []) := by
  obtain ⟨feeding, queue, progress, outcome⟩ := relay
  match feeding with
  | .reading [] => exact Or.inl (Nat.add_lt_add_right (Nat.succ_pos _) _)
  | .reading (.error fault :: items) => exact Or.inl (Nat.add_lt_add_right (Nat.succ_pos _) _)
  | .reading (.ok point :: items) =>
    have hless : (Feeding.holding point items).ahead <
        (Feeding.reading (.ok point :: items)).ahead := by
      simp only [Feeding.ahead, List.length_cons]
      omega
    exact Or.inl (Nat.add_lt_add_right hless _)
  | .holding point items =>
    rw [feed]
    split_ifs with hstopped hroom
    · exact Or.inl (Nat.add_lt_add_right (Nat.succ_pos _) _)
    · have hnone : outcome = none := by simpa using hstopped
      left
      simp only [remaining, hnone, Option.isNone_none, if_true, Feeding.ahead, List.length_append,
        List.length_singleton]
      omega
    · refine Or.inr ⟨rfl, Or.inr ⟨by simpa using hstopped, ?_⟩⟩
      rintro rfl
      exact hroom (Nat.succ_pos _)
  | .stopped failure => exact Or.inr ⟨rfl, Or.inl ⟨failure, rfl⟩⟩

/-- A turn of the writer brings the end nearer, unless it waits. -/
theorem Works.remaining {reached : Relay σ} (hworks : relay.Works device buffering reached) :
    reached.remaining < relay.remaining ∨
      reached = relay ∧ (relay.outcome ≠ none ∨
        relay.queue = [] ∧ ∀ failure, relay.feeding ≠ .stopped failure) := by
  cases hworks with
  | waits hidle => exact Or.inr ⟨rfl, hidle⟩
  | puts hnone hqueue hput =>
    left
    simp only [Relay.remaining, hnone, hqueue, Option.isNone_none, if_true, List.length_cons]
    omega
  | stops hnone hwritten hended =>
    left
    simp only [Relay.remaining, stop, hnone, Option.isNone_none, Option.isNone_some, if_true]
    exact Nat.add_lt_add_left (Nat.succ_pos _) _

section Rounds

variable (device buffering)

theorem remaining_step (relay : Relay σ) (side : Side) :
    (relay.step device buffering side).remaining < relay.remaining ∨
      relay.step device buffering side = relay := by
  cases side with
  | feeder => exact relay.remaining_feed.imp_right And.left
  | writer => exact (works_work device buffering relay).remaining.imp_right And.left

/-- As long as an export has not ended, one of the sides can bring the end nearer. -/
theorem exists_side_of_result?_eq_none (hresult : relay.result? = none) :
    ∃ side, (relay.step device buffering side).remaining < relay.remaining := by
  rcases relay.remaining_feed with hfeeds | ⟨-, hwaits⟩
  · exact ⟨.feeder, hfeeds⟩
  · rcases (works_work device buffering relay).remaining with hworks | ⟨-, hidle⟩
    · exact ⟨.writer, hworks⟩
    · -- each side waits for the other only if both have stopped
      exfalso
      rcases hwaits with ⟨failure, hstopped⟩ | ⟨hnone, hsome⟩
      · rcases hidle with hended | ⟨-, hgoing⟩
        · obtain ⟨outcome, houtcome⟩ := Option.ne_none_iff_exists'.1 hended
          rw [result?, hstopped, houtcome] at hresult
          cases hresult
        · exact hgoing failure hstopped
      · rcases hidle with hended | ⟨hempty, -⟩
        · exact hended hnone
        · exact hsome hempty

theorem remaining_run (relay : Relay σ) (sides : List Side) :
    (relay.run device buffering sides).remaining < relay.remaining ∨
      relay.run device buffering sides = relay := by
  induction sides generalizing relay with
  | nil => exact Or.inr rfl
  | cons side rest ih =>
    rcases relay.remaining_step device buffering side with hless | hsame
    · left
      rcases ih (relay.step device buffering side) with hmore | hrest
      · exact hmore.trans hless
      · exact (congrArg remaining hrest).trans_lt hless
    · rw [run, List.foldl_cons, hsame]
      exact ih relay

/-- A round in which every side has a turn brings the end nearer, unless it is reached. -/
theorem remaining_round (hresult : relay.result? = none) {round : List Side}
    (hturns : ∀ side, side ∈ round) :
    (relay.run device buffering round).remaining < relay.remaining := by
  obtain ⟨side, hless⟩ := exists_side_of_result?_eq_none device buffering hresult
  obtain ⟨before, after, rfl⟩ := List.append_of_mem (hturns side)
  rw [run, List.foldl_append, List.foldl_cons, ← run, ← run]
  rcases relay.remaining_run device buffering before with hsooner | hsame
  · refine lt_of_le_of_lt ?_ hsooner
    exact ((relay.run device buffering before).remaining_run device buffering
      (side :: after)).elim le_of_lt fun hsame => (congrArg remaining hsame).le
  · rw [hsame]
    refine lt_of_le_of_lt ?_ hless
    exact ((relay.step device buffering side).remaining_run device buffering after).elim
      le_of_lt fun hsame => (congrArg remaining hsame).le

theorem run_of_result? {result : Except Fault Nat} (hresult : relay.result? = some result)
    (sides : List Side) : relay.run device buffering sides = relay := by
  rw [result?] at hresult
  split at hresult
  next failure outcome hfeeding houtcome =>
    induction sides with
    | nil => rfl
    | cons side rest ih =>
      have hstep : relay.step device buffering side = relay := by
        cases side with
        | feeder => exact feed_of_stopped hfeeding
        | writer => rw [step, work, houtcome]
      rw [run, List.foldl_cons, hstep]
      exact ih
  next => cases hresult

theorem exists_result_of_rounds {rounds : List (List Side)}
    (hturns : ∀ round ∈ rounds, ∀ side, side ∈ round) (hcount : relay.remaining ≤ rounds.length) :
    ∃ result, (relay.run device buffering rounds.flatten).result? = some result := by
  induction rounds generalizing relay with
  | nil =>
    rw [← Option.ne_none_iff_exists']
    intro hresult
    obtain ⟨side, hless⟩ := exists_side_of_result?_eq_none device buffering hresult
    exact absurd (hless.trans_le hcount) (Nat.not_lt_zero _)
  | cons round others ih =>
    obtain ⟨hround, hothers⟩ := List.forall_mem_cons.1 hturns
    cases hresult : relay.result? with
    | some result => exact ⟨result, by rw [run_of_result? device buffering hresult, hresult]⟩
    | none =>
      have hless := remaining_round device buffering hresult hround
      rw [List.flatten_cons, run, List.foldl_append, ← run, ← run]
      rw [List.length_cons] at hcount
      exact ih hothers (by omega)

end Rounds

end Relay

end MetricBridge.Export
