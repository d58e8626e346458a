/-
# A tail delivers what one read at the end yields

A tail cuts its range at the points it happens to find, leaves out polls for which the clock
has not moved on, and orders each piece by itself. As long as nothing is stored late, that
is in a second that a poll has already seen, all this makes no difference: the pieces put
together are the one list that a bounded read of the whole range yields at the end. A poll has
seen its second as soon as it is answered. That nothing is late for the polls that are complete
is not enough, because the points of an answer may have to wait for the queue.

The invariant is `CaughtUp`: of what the store holds nothing is missing up to the latest
clock of a poll. The cursor may well be below that clock, so the same seconds are asked for
again; but it is the latest instant picked up, so nothing at or below it is still to come.
-/

import Mathlib
import MetricBridge.Proofs.Read.Watch

namespace MetricBridge.Watch

open Time (Instant)

/-- What the clock showed to the polls that are complete, the latest first. -/
def completeNows (watch : Watch) : List Instant :=
  if watch.IsResting then watch.nows else watch.nows.tail

/-- What is stored now is stamped later than what the clock has shown to some polls. -/
def AllowsNext (shown : Watch → List Instant) (watch : Watch) : WatchEvent → Prop
  | .submit submission =>
    ∀ point ∈ submission.points, ∀ now ∈ shown watch, now.second < point.time.second
  | _ => True

/-- Nothing is stored late for these polls in the course of some events. -/
def Spaced (shown : Watch → List Instant) (watch : Watch) : List WatchEvent → Prop
  | [] => True
  | event :: rest => watch.AllowsNext shown event ∧ (watch.step event).Spaced shown rest

instance (shown : Watch → List Instant) (watch : Watch) (event : WatchEvent) :
    Decidable (watch.AllowsNext shown event) :=
  match event with
  | .submit submission =>
    inferInstanceAs (Decidable (∀ point ∈ submission.points, ∀ now ∈ shown watch, _ < _))
  | .poll _ | .push | .take => inferInstanceAs (Decidable True)

instance decidableSpaced (shown : Watch → List Instant) (watch : Watch) :
    (events : List WatchEvent) → Decidable (watch.Spaced shown events)
  | [] => inferInstanceAs (Decidable True)
  | event :: rest =>
    have := decidableSpaced shown (watch.step event) rest
    inferInstanceAs (Decidable (_ ∧ _))

/-- What was picked up is what the store holds after the start and up to the clock of some
poll, in strict order. -/
structure CaughtUp (target : String) (first : Instant) (watch : Watch) : Prop where
  ordered : watch.pickedUp.Pairwise Point.Before
  complete : ∀ point, point ∈ watch.pickedUp ↔
    ∃ now ∈ watch.nows, watch.installation.store.Offers ⟨target, ⟨some first, now⟩⟩ point

theorem caughtUp_start (target : String) (first : Instant) :
    (start target first).CaughtUp target first where
  ordered := List.Pairwise.nil
  complete := by simp [pickedUp, start, Journal.start, Journal.delivered, Journal.pending,
    Tail.start, nows]

section Runs

variable {target : String} {first : Instant} {watch : Watch}

/-- A write that is not late changes nothing of what should have been picked up. -/
theorem CaughtUp.store (hcaught : watch.CaughtUp target first) {points : List Point}
    (hlater : ∀ point ∈ points, ∀ now ∈ watch.nows, now.second < point.time.second)
    {after : Watch}
    (hstore : after.installation.store = watch.installation.store.withPoints points)
    (hpicked : after.pickedUp = watch.pickedUp) (hnows : after.nows = watch.nows) :
    after.CaughtUp target first := by
  constructor
  case ordered =>
    rw [hpicked]
    exact hcaught.ordered
  case complete =>
    intro point
    rw [hpicked, hnows, hstore, hcaught.complete]
    apply exists_congr
    intro now
    apply and_congr_right
    intro hnow
    exact (Store.offers_withPoints_iff fun other hother => hlater other hother now hnow).symm

/-- A poll brings what is still missing up to its clock, and all of it comes after what was
picked up before. -/
theorem CaughtUp.pick (hcaught : watch.CaughtUp target first) {cursor now : Instant}
    (hcursor : IsGreatest (insert first {time | ∃ point ∈ watch.pickedUp, point.time = time})
      cursor)
    {points : List Point} (hordered : points.Pairwise Point.Before)
    (hmem : ∀ point, point ∈ points ↔
      watch.installation.store.Offers ⟨target, ⟨some cursor, now⟩⟩ point)
    {after : Watch} (hstore : after.installation.store = watch.installation.store)
    (hpicked : after.pickedUp = watch.pickedUp ++ points) (hnows : after.nows = now :: watch.nows) :
    after.CaughtUp target first := by
  have hfirst : first ≤ cursor := hcursor.2 (Set.mem_insert _ _)
  constructor
  case ordered =>
    rw [hpicked, List.pairwise_append]
    refine ⟨hcaught.ordered, hordered, ?_⟩
    intro a ha b hb
    left
    have hle : a.time ≤ cursor := hcursor.2 (Set.mem_insert_of_mem _ ⟨a, ha, rfl⟩)
    have hlt : cursor < b.time :=
      (Interval.contains_some_iff.1 ((hmem b).1 hb).inWindow).1
    exact lt_of_le_of_lt hle hlt
  case complete =>
    intro point
    rw [hpicked, hnows, hstore, List.mem_append, List.exists_mem_cons_iff, hcaught.complete, hmem]
    constructor
    · rintro (hearlier | hoffers)
      · exact Or.inr hearlier
      · obtain ⟨hlt, hle⟩ := Interval.contains_some_iff.1 hoffers.inWindow
        have hwindow := Interval.contains_some_iff.2 ⟨lt_of_le_of_lt hfirst hlt, hle⟩
        exact Or.inl { hoffers with inWindow := hwindow }
    · rintro (hoffers | hearlier)
      · obtain ⟨hlt, hle⟩ := Interval.contains_some_iff.1 hoffers.inWindow
        rcases lt_or_ge cursor point.time with habove | hbelow
        · exact Or.inr { hoffers with inWindow := Interval.contains_some_iff.2 ⟨habove, hle⟩ }
        · -- The cursor is not the start, so it is the time of a point; the poll of that
          -- point has seen this one as well.
          left
          rcases hcursor.1 with hstart | ⟨latest, hlatest, htime⟩
          · rw [hstart] at hbelow
            exact absurd hlt (not_lt.2 hbelow)
          · obtain ⟨earlier, hearlier, hseen⟩ := (hcaught.complete latest).1 hlatest
            have hclock := (Interval.contains_some_iff.1 hseen.inWindow).2
            rw [← htime] at hbelow
            have hwindow := Interval.contains_some_iff.2 ⟨hlt, le_trans hbelow hclock⟩
            exact ⟨earlier, hearlier, { hoffers with inWindow := hwindow }⟩
      · exact Or.inl hearlier

/-- No event that may come next lets a tail fall behind. -/
theorem CaughtUp.step (hcaught : watch.CaughtUp target first)
    (hhealthy : watch.Healthy target first) {event : WatchEvent}
    (hallows : watch.AllowsNext nows event) : (watch.step event).CaughtUp target first := by
  cases hhealthy.effect event with
  | stored hstore hpicked hnows => exact hcaught.store hallows hstore hpicked hnows
  | picked hresting hordered hmem hstore hpicked hnows =>
    have hcursor := hhealthy.cursor_isGreatest hresting
    exact hcaught.pick hcursor hordered hmem hstore hpicked hnows
  | moved _ _ hstore hpicked hnows =>
    refine ⟨hpicked ▸ hcaught.ordered, ?_⟩
    rw [hpicked, hnows, hstore]
    exact hcaught.complete

theorem CaughtUp.run (hcaught : watch.CaughtUp target first)
    (hhealthy : watch.Healthy target first) {events : List WatchEvent}
    (hspaced : watch.Spaced nows events) : (watch.run events).CaughtUp target first := by
  induction events generalizing watch with
  | nil => exact hcaught
  | cons event rest ih =>
    obtain ⟨hallows, hrest⟩ := hspaced
    exact ih (hcaught.step hhealthy hallows) (hhealthy.step event) hrest

/-- What was picked up is what the store offers up to the latest clock of a poll. -/
theorem CaughtUp.mem_pickedUp_iff (hcaught : watch.CaughtUp target first) {last : Instant}
    (hlast : IsGreatest {now | now ∈ watch.nows} last) (point : Point) :
    point ∈ watch.pickedUp ↔
      watch.installation.store.Offers ⟨target, ⟨some first, last⟩⟩ point := by
  rw [hcaught.complete]
  constructor
  · rintro ⟨now, hnow, hoffers⟩
    obtain ⟨hlt, hle⟩ := Interval.contains_some_iff.1 hoffers.inWindow
    have hwindow := Interval.contains_some_iff.2 ⟨hlt, le_trans hle (hlast.2 hnow)⟩
    exact { hoffers with inWindow := hwindow }
  · intro hoffers
    exact ⟨last, hlast.1, hoffers⟩

/-- A resting tail has put nothing but its points into the queue. -/
theorem Healthy.items_eq (hhealthy : watch.Healthy target first) :
    watch.journal.taken ++ watch.journal.tail.queue =
      watch.journal.delivered.map Except.ok := by
  obtain ⟨faults, hitems, hfaults⟩ := hhealthy.sound.items
  have hgoing : watch.journal.tail.phase ≠ .stopped := by
    rcases hhealthy.phase with (hphase | hphase) | ⟨rest, hphase⟩ <;> simp [hphase]
  rw [hitems, hfaults.resolve_left hgoing, List.map_nil, List.append_nil]

end Runs

/-- If nothing is stored late for any poll that has begun and the last poll is complete, the items
that the tail has handed out or still holds in its queue are the points it delivered, and these
are exactly what a bounded read of everything after the start and up to the latest clock of a
poll yields. -/
theorem delivered_eq_boundedRead (target : String) (first last : Instant)
    (events : List WatchEvent) (hspaced : (start target first).Spaced nows events)
    (hresting : ((start target first).run events).IsResting)
    (hlast : IsGreatest {now | now ∈ ((start target first).run events).nows} last) :
    let final := (start target first).run events
    final.journal.taken ++ final.journal.tail.queue = final.journal.delivered.map Except.ok ∧
      BoundedRead.Yields Installation.load (BoundedRead.start ⟨target, ⟨some first, last⟩⟩)
        final.installation (final.journal.delivered.map Except.ok) := by
  intro final
  have hhealthy : final.Healthy target first := (healthy_start target first).run events
  have hcaught : final.CaughtUp target first :=
    (caughtUp_start target first).run (healthy_start target first) hspaced
  refine ⟨hhealthy.items_eq, ?_⟩
  obtain ⟨points, hrun, hordered, hmem⟩ := hhealthy.serving.run ⟨target, ⟨some first, last⟩⟩
  have hdelivered : final.journal.delivered = points := by
    rw [← hresting.pickedUp_eq]
    apply Point.eq_of_mem_iff hcaught.ordered hordered
    intro point
    rw [hcaught.mem_pickedUp_iff hlast, hmem]
  have hyields : BoundedRead.Yields Installation.load _ _ _ :=
    BoundedRead.yields_start ⟨target, ⟨some first, last⟩⟩ final.installation
  rw [hdelivered]
  rwa [hrun] at hyields

/-- A poll at noon, a write for the evening, and a clock that has gone back to dawn. -/
def aroundNoon : List WatchEvent :=
  [.submit ⟨noon, [untimed "m.a" 1], false⟩, .poll noon, .push, .push,
    .submit ⟨evening, [untimed "m.a" 2], false⟩, .poll dawn]

theorem delivered_aroundNoon :
    let final := (start "m.*" dawn).run aroundNoon
    final.journal.taken ++ final.journal.tail.queue = final.journal.delivered.map Except.ok ∧
      BoundedRead.Yields Installation.load (BoundedRead.start ⟨"m.*", ⟨some dawn, noon⟩⟩)
        final.installation (final.journal.delivered.map Except.ok) := by
  have hnows : ((start "m.*" dawn).run aroundNoon).nows = [dawn, noon] := by decide +kernel
  have hlatest : ∀ now ∈ [dawn, noon], now ≤ noon := by decide
  have hlast : IsGreatest {now | now ∈ ((start "m.*" dawn).run aroundNoon).nows} noon := by
    rw [hnows]
    exact ⟨List.mem_cons_of_mem _ List.mem_cons_self, fun now hnow => hlatest now hnow⟩
  exact delivered_eq_boundedRead "m.*" dawn noon aroundNoon (by decide +kernel)
    (by decide +kernel) hlast

/-- One series is written at noon, and a poll at noon picks it up. Before the poll is complete,
another series is written at noon. -/
def duringNoon : List WatchEvent :=
  [.submit ⟨noon, [untimed "m.a" 1], false⟩, .poll noon,
    .submit ⟨noon, [untimed "m.b" 2], false⟩, .push, .push]

/-- Nothing is late here for the polls that are complete, since none is when the second series is
written; but the tail has delivered only the first series, and a bounded read yields the second
one as well. -/
theorem second_series_duringNoon_missed :
    let final := (start "m.*" dawn).run duringNoon
    (start "m.*" dawn).Spaced completeNows duringNoon ∧ final.IsResting ∧
      IsGreatest {now | now ∈ final.nows} noon ∧
      final.journal.delivered = [⟨noon, "m.a", Binary64.ofInt 1⟩] ∧
      ∃ points : List Point, ⟨noon, "m.b", Binary64.ofInt 2⟩ ∈ points ∧
        BoundedRead.Yields Installation.load (BoundedRead.start ⟨"m.*", ⟨some dawn, noon⟩⟩)
          final.installation (points.map Except.ok) := by
  intro final
  have hhealthy : final.Healthy "m.*" dawn := (healthy_start "m.*" dawn).run duringNoon
  obtain ⟨points, hrun, -, hmem⟩ := hhealthy.serving.run ⟨"m.*", ⟨some dawn, noon⟩⟩
  have hoffers : final.installation.store.Offers ⟨"m.*", ⟨some dawn, noon⟩⟩
      ⟨noon, "m.b", Binary64.ofInt 2⟩ := by
    constructor
    case fits => decide +kernel
    case isWhole => rfl
    case held => decide +kernel
    case inWindow => decide +kernel
  have hnows : final.nows = [noon] := by decide +kernel
  refine ⟨by decide +kernel, by decide +kernel, ?_, by decide +kernel, points,
    (hmem _).2 hoffers, BoundedRead.yields_points hrun⟩
  rw [hnows]
  exact ⟨List.mem_singleton_self noon, fun now hnow => (List.mem_singleton.1 hnow).le⟩

end MetricBridge.Watch
