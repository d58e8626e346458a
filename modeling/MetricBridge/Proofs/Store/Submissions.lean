/-
# An installation that is written to

A submission is one write: records, the clock at that time, and whether the installation
refuses the payload. However submissions follow each other, the store holds what the
points of those that were not refused put into it, and the installation goes on answering
every query from its store.
-/

import Mathlib
import MetricBridge.Proofs.Ingest.Batch
import MetricBridge.Proofs.Read.Bounded
import MetricBridge.Proofs.Store.Samples
import MetricBridge.Proofs.Window.Interval

namespace MetricBridge

open Time (Instant)

/-- Records that are written when the clock shows a time. -/
structure Submission where
  clock : Instant
  records : List Record
  /-- The installation does not take the payload. -/
  isRefused : Bool

namespace Submission

/-- The points of a submission that get into the store, in the order of their records. -/
def points (submission : Submission) : List Point :=
  if submission.isRefused then []
  else submission.records.filterMap (Record.point? submission.clock)

theorem isPlainName_of_mem_points (submission : Submission) {point : Point}
    (hmem : point ∈ submission.points) : Plaintext.IsPlainName point.name := by
  unfold points at hmem
  split at hmem
  next => cases hmem
  next => exact Record.isPlainName_of_mem hmem

end Submission

namespace Installation

/-- An installation that takes queries and answers them from its store. -/
structure Serving (installation : Installation) : Prop where
  takesQueries : installation.refusesQueries = false
  isOwnAnswer : installation.laidDown = none
  isWhole : installation.isBroken = false
  wellFormed : installation.store.WellFormed

theorem serving_empty : empty.Serving :=
  ⟨rfl, rfl, rfl, Store.wellFormed_empty⟩

/-- An installation after one submission. -/
def submit (installation : Installation) (submission : Submission) : Installation :=
  (Record.writeAll send submission.clock submission.records
    { installation with refusesPayloads := submission.isRefused }).2

/-- An installation after some submissions, empty at first. -/
def after (submissions : List Submission) : Installation :=
  submissions.foldl submit empty

/-- All that a submission does to what is answered is to put its points into the store. None of
its lines breaks the store. -/
theorem submit_spec {installation : Installation} (hwhole : installation.isBroken = false)
    (submission : Submission) :
    (installation.submit submission).store = installation.store.withPoints submission.points ∧
      (installation.submit submission).refusesQueries = installation.refusesQueries ∧
      (installation.submit submission).laidDown = installation.laidDown ∧
      (installation.submit submission).isBroken = false := by
  unfold submit Record.writeAll Batch.send Batch.payload?
  rw [Batch.points_ofRecords]
  cases hrefused : submission.isRefused with
  | true =>
    rw [Submission.points, if_pos hrefused]
    split
    next => exact ⟨rfl, rfl, rfl, hwhole⟩
    next => simp [send, Store.withPoints, hwhole]
  | false =>
    have hpoints : submission.points =
        submission.records.filterMap (Record.point? submission.clock) := by
      rw [Submission.points, if_neg (by simp [hrefused])]
    rw [← hpoints]
    have haccept := Store.accept_encode
      (fun _ => submission.isPlainName_of_mem_points) installation.store
    split
    next hnone =>
      have hempty : submission.points = [] := by simpa using hnone
      rw [hempty]
      exact ⟨rfl, rfl, rfl, hwhole⟩
    next payload hsome =>
      obtain ⟨-, rfl⟩ : submission.points ≠ [] ∧
          Plaintext.encode submission.points = payload := by simpa using hsome
      simp [send, haccept, hwhole]

theorem Serving.submit {installation : Installation} (hserving : installation.Serving)
    (submission : Submission) : (installation.submit submission).Serving := by
  obtain ⟨hstore, hqueries, hanswer, hwhole⟩ := submit_spec hserving.isWhole submission
  exact ⟨hqueries.trans hserving.takesQueries, hanswer.trans hserving.isOwnAnswer, hwhole,
    hstore ▸ hserving.wellFormed.withPoints _⟩

/-- A query to a serving installation is answered from its store, which stays as it is. -/
theorem Serving.load {installation : Installation} (hserving : installation.Serving)
    (query : Query) :
    (Installation.load query installation).1 = .ok (installation.store.answer query) ∧
      (Installation.load query installation).2.store = installation.store ∧
      (Installation.load query installation).2.Serving := by
  obtain ⟨htakes, hown, hwhole, hstore⟩ := hserving
  refine ⟨?_, rfl, htakes, hown, hwhole, hstore⟩
  simp only [Installation.load, htakes, hown, hwhole, Bool.false_eq_true, if_false]

/-- Asking once gives exactly the samples that the query asks for, in strict order. -/
theorem Serving.run {installation : Installation} (hserving : installation.Serving)
    (query : Query) :
    ∃ points, (query.run Installation.load installation).1 = .ok points ∧
      points.Pairwise Point.Before ∧
      ∀ point, point ∈ points ↔ installation.store.Offers query point := by
  unfold Query.run
  split
  next hempty =>
    refine ⟨[], rfl, List.Pairwise.nil, ?_⟩
    intro point
    simp only [List.not_mem_nil, false_iff]
    intro hoffers
    have hcontains := hoffers.inWindow
    rw [Interval.contains_eq_false_of_isEmpty hempty] at hcontains
    cases hcontains
  next =>
    simp only [(hserving.load query).1]
    exact Store.select_answer hserving.wellFormed query

theorem store_after (submissions : List Submission) :
    (after submissions).store = Store.empty.withPoints (submissions.flatMap Submission.points) ∧
      (after submissions).Serving := by
  induction submissions using List.reverseRecOn with
  | nil => exact ⟨rfl, serving_empty⟩
  | append_singleton earlier submission ih =>
    have hstep : after (earlier ++ [submission]) = (after earlier).submit submission := by
      rw [after, List.foldl_append]
      rfl
    rw [hstep]
    refine ⟨?_, ih.2.submit submission⟩
    rw [(submit_spec ih.2.isWhole submission).1, ih.1, List.flatMap_append,
      List.flatMap_singleton]
    simp only [Store.withPoints, List.foldl_append]

end Installation

end MetricBridge
