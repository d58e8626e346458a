/-
# What a tail delivers, whatever it is told

The clock may stand still or go back, and the store may answer with anything: old points
again, points outside of the window, points of the future. Nothing of this gets through. What
the reader yields is in order, no point comes twice, and the cursor always stands at the
latest point delivered, which is why no window that is asked for is empty.
-/

import Mathlib
import MetricBridge.Proofs.Read.Journal

namespace MetricBridge.Journal

open Time (Instant)

/-- The points that the reader has taken. -/
def yielded (journal : Journal) : List Point :=
  journal.taken.filterMap Except.toOption

/-- What a tail that was started at an instant promises about all that it has delivered. -/
structure Safe (start : Instant) (journal : Journal) : Prop where
  /-- The reader yields what was delivered, in the same order and from the beginning. -/
  yielded_prefix : journal.yielded <+: journal.delivered
  /-- Times do not decrease, and points of one time are ordered by name. -/
  ordered : journal.delivered.Pairwise fun a b => a.precedes b = true
  afterStart : ∀ point ∈ journal.delivered, start < point.time
  /-- Polls are listed with the latest first. -/
  afterEarlierPolls : journal.polls.Pairwise fun later earlier =>
    ∀ a ∈ earlier.points, ∀ b ∈ later.points, a.time < b.time
  notAhead : ∀ poll ∈ journal.polls, ∀ point ∈ poll.points, point.time ≤ poll.now
  cursor_isGreatest : IsGreatest (journal.reached start) journal.tail.cursor
  windows : ∀ poll ∈ journal.polls, ∀ window ∈ poll.window,
    window = ⟨some poll.floor, poll.now⟩ ∧ window.isEmpty = false
  floors : journal.polls.Pairwise fun later earlier => earlier.floor ≤ later.floor

section Sound

variable {first : Instant} {journal : Journal}

/-- A poll delivers only what comes after the cursor at which it began. -/
theorem Sound.floor_lt (hsound : journal.Sound first) {poll : Poll}
    (hpoll : poll ∈ journal.polls) {point : Point} (hpoint : point ∈ poll.points) :
    poll.floor < point.time :=
  (Interval.contains_some_iff.1 ((hsound.polls poll hpoll).inSpan point hpoint)).1

theorem Sound.pairwise_polls (hsound : journal.Sound first) :
    journal.polls.Pairwise fun later earlier =>
      ∀ a ∈ earlier.points, ∀ b ∈ later.points, a.time < b.time := by
  apply hsound.raised.imp_of_mem
  intro later earlier hlater _ hraised a ha b hb
  exact lt_of_le_of_lt (hraised.2 a ha) (hsound.floor_lt hlater hb)

theorem Sound.pairwise_delivered (hsound : journal.Sound first) :
    journal.delivered.Pairwise fun a b => a.precedes b = true := by
  rw [delivered, List.pairwise_flatMap, List.pairwise_reverse]
  constructor
  · intro poll hmem
    exact (hsound.polls poll (List.mem_reverse.1 hmem)).ordered
  · apply hsound.pairwise_polls.imp
    intro later earlier hlt a ha b hb
    rw [Point.precedes, decide_eq_true (hlt a ha b hb), Bool.true_or]

theorem Sound.yielded_prefix (hsound : journal.Sound first) :
    journal.yielded <+: journal.delivered := by
  obtain ⟨faults, hitems, -⟩ := hsound.items
  have hpoints : journal.yielded ++ journal.tail.queue.filterMap Except.toOption =
      journal.delivered := by
    rw [yielded, ← List.filterMap_append, hitems, List.filterMap_append, List.filterMap_map,
      List.filterMap_map]
    have hnone : faults.filterMap (Except.toOption ∘ (Except.error : Fault → Item)) = [] :=
      List.filterMap_eq_nil_iff.2 fun _ _ => rfl
    have hsome : (Except.toOption ∘ (Except.ok : Point → Item)) = some := rfl
    rw [hnone, hsome, List.filterMap_some, List.append_nil]
  exact ⟨_, hpoints⟩

end Sound

/-- Whatever the clock and the store say and in whatever order the steps of a tail are taken, what
it has delivered is safe. -/
theorem safe_run_start (target : String) (first : Instant) (steps : List TailStep) :
    ((start target first).run steps).Safe first := by
  have hsound := (sound_start target first).run steps
  constructor
  case yielded_prefix => exact hsound.yielded_prefix
  case ordered => exact hsound.pairwise_delivered
  case afterStart =>
    intro point hmem
    obtain ⟨poll, hpoll, hpoint⟩ := mem_delivered_iff.1 hmem
    exact lt_of_le_of_lt (hsound.polls poll hpoll).started (hsound.floor_lt hpoll hpoint)
  case afterEarlierPolls => exact hsound.pairwise_polls
  case notAhead =>
    intro poll hpoll point hpoint
    exact (Interval.contains_some_iff.1 ((hsound.polls poll hpoll).inSpan point hpoint)).2
  case cursor_isGreatest => exact hsound.cursor
  case windows => exact fun poll hpoll => (hsound.polls poll hpoll).asked
  case floors => exact hsound.raised.imp And.left

end MetricBridge.Journal
