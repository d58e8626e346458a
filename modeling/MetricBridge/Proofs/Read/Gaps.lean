/-
# Which points a tail misses

A poll asks for everything up to the second that the clock shows, and this second is still
running. Once the poll has picked up a point of it, the cursor stands at that second and the
tail never asks for it again. What is written to another series in the same second afterwards
is therefore never delivered, although a bounded read finds it.

For a record that is taken by the installation there are three cases. Its point has been
picked up; or everything picked up so far is earlier, and then the next poll that sees its
second picks it up; or something of its second or later has been picked up, and then it never
will be. The cases exclude each other and no event leads from the first or the last of them
to another one, so what is delivered in the end is decided when the record is written.
-/

import Mathlib
import MetricBridge.Proofs.Read.Watch

namespace MetricBridge

open Time (Instant)

/-- A point that gets into a store is held there, or a later one for its name and second is. -/
theorem Store.exists_sample?_withPoints {store : Store} {points : List Point} {point : Point}
    (hmem : point ∈ points) :
    ∃ value, (store.withPoints points).sample? point.name point.time.second = some value := by
  rw [sample?_withPoints]
  cases hlatest : Point.latest? points point.name point.time.second with
  | some value => exact ⟨value, Option.some_or⟩
  | none => exact absurd rfl (Point.latest?_eq_none_iff.1 hlatest point hmem rfl)

/-- What is held for a name and a second stays held. -/
theorem Store.exists_sample?_of_exists {store : Store} {name : String} {second : Int}
    (hheld : ∃ value, store.sample? name second = some value) (points : List Point) :
    ∃ value, (store.withPoints points).sample? name second = some value := by
  obtain ⟨value, hvalue⟩ := hheld
  rw [sample?_withPoints, hvalue]
  cases Point.latest? points name second with
  | some newer => exact ⟨newer, rfl⟩
  | none => exact ⟨value, rfl⟩

namespace Watch

/-- A point of a name and a time has been picked up. -/
def Has (watch : Watch) (name : String) (time : Instant) : Prop :=
  ∃ point ∈ watch.pickedUp, point.name = name ∧ point.time = time

/-- The store holds a value for a name and a second, and all that was picked up is earlier. -/
structure Awaits (watch : Watch) (name : String) (time : Instant) : Prop where
  held : ∃ value, watch.installation.store.sample? name time.second = some value
  isEarlier : ∀ point ∈ watch.pickedUp, point.time < time

/-- Nothing of a name and a time has been picked up, but something that is not earlier. -/
structure Passed (watch : Watch) (name : String) (time : Instant) : Prop where
  isMissing : ¬ watch.Has name time
  isPast : ∃ point ∈ watch.pickedUp, time ≤ point.time

section Runs

variable {target name : String} {first time : Instant} {watch : Watch}

/-- What was picked up is never lost. -/
theorem Has.step (hhas : watch.Has name time) (hhealthy : watch.Healthy target first)
    (event : WatchEvent) : (watch.step event).Has name time := by
  obtain ⟨point, hmem, hpoint⟩ := hhas
  cases hhealthy.effect event with
  | stored _ hpicked _ => exact ⟨point, hpicked ▸ hmem, hpoint⟩
  | picked _ _ _ _ hpicked _ =>
    exact ⟨point, hpicked ▸ List.mem_append_left _ hmem, hpoint⟩
  | moved _ _ _ hpicked _ => exact ⟨point, hpicked ▸ hmem, hpoint⟩

/-- What a tail has passed over it does not come back to. -/
theorem Passed.step (hpassed : watch.Passed name time) (hhealthy : watch.Healthy target first)
    (event : WatchEvent) : (watch.step event).Passed name time := by
  obtain ⟨hmissing, past, hpast, hle⟩ := hpassed
  have hsame : ∀ {after : Watch}, after.pickedUp = watch.pickedUp → after.Passed name time := by
    intro after hpicked
    refine ⟨?_, past, hpicked ▸ hpast, hle⟩
    rw [Has, hpicked]
    exact hmissing
  cases hhealthy.effect event with
  | stored _ hpicked _ => exact hsame hpicked
  | moved _ _ _ hpicked _ => exact hsame hpicked
  | picked hresting _ hoffers _ hpicked _ =>
    refine ⟨?_, past, hpicked ▸ List.mem_append_left _ hpast, hle⟩
    rintro ⟨point, hmem, hname, htime⟩
    rw [hpicked] at hmem
    rcases List.mem_append.1 hmem with hbefore | hnew
    · exact hmissing ⟨point, hbefore, hname, htime⟩
    · have habove := (Interval.contains_some_iff.1 ((hoffers point).1 hnew).inWindow).1
      have hcursor := (hhealthy.cursor_isGreatest hresting).2
        (Set.mem_insert_of_mem _ ⟨past, hpast, rfl⟩)
      rw [htime] at habove
      exact absurd (lt_of_le_of_lt (le_trans hle hcursor) habove) (lt_irrefl _)

/-- What a tail awaits is after its cursor. -/
theorem Awaits.cursor_lt (hawaits : watch.Awaits name time)
    (hhealthy : watch.Healthy target first) (hresting : watch.IsResting) (hfirst : first < time) :
    watch.journal.tail.cursor < time := by
  rcases (hhealthy.cursor_isGreatest hresting).1 with hstart | ⟨point, hmem, htime⟩
  · rw [hstart]
    exact hfirst
  · rw [← htime]
    exact hawaits.isEarlier point hmem

/-- A poll whose clock has reached what is awaited picks it up. -/
theorem Awaits.poll (hawaits : watch.Awaits name time) (hhealthy : watch.Healthy target first)
    (hresting : watch.IsResting) (hfirst : first < time) (hwhole : time.nano = 0)
    (hfits : Glob.fits target.toList name.toList = true) {clock : Instant}
    (hclock : time.second ≤ clock.second) : (watch.step (.poll clock)).Has name time := by
  obtain ⟨value, hvalue⟩ := hawaits.held
  have hcursor := hawaits.cursor_lt hhealthy hresting hfirst
  cases hhealthy.effect (.poll clock) with
  | moved _ hbusy _ _ _ => exact absurd hresting (hbusy clock rfl)
  | picked _ _ hoffers _ hpicked _ =>
    have hstop : time ≤ clock.truncate := (Instant.le_of_nano_eq_zero hwhole).2 hclock
    have hnew := (hoffers ⟨time, name, value⟩).2
      ⟨hwhole, hfits, Interval.contains_some_iff.2 ⟨hcursor, hstop⟩, hvalue⟩
    exact ⟨_, hpicked ▸ List.mem_append_right _ hnew, rfl, rfl⟩

/-- What is awaited is picked up or goes on being awaited. -/
theorem Awaits.step (hawaits : watch.Awaits name time) (hhealthy : watch.Healthy target first)
    (hfirst : first < time) (hwhole : time.nano = 0)
    (hfits : Glob.fits target.toList name.toList = true) (event : WatchEvent) :
    (watch.step event).Has name time ∨ (watch.step event).Awaits name time := by
  cases hhealthy.effect event with
  | stored hstore hpicked _ =>
    right
    refine ⟨?_, hpicked ▸ hawaits.isEarlier⟩
    rw [hstore]
    exact Store.exists_sample?_of_exists hawaits.held _
  | moved _ _ hstore hpicked _ =>
    exact Or.inr ⟨hstore ▸ hawaits.held, hpicked ▸ hawaits.isEarlier⟩
  | @picked clock points hresting _ hoffers hstore hpicked _ =>
    by_cases hclock : time.second ≤ clock.second
    · exact Or.inl (hawaits.poll hhealthy hresting hfirst hwhole hfits hclock)
    · right
      refine ⟨hstore ▸ hawaits.held, ?_⟩
      intro point hmem
      rw [hpicked] at hmem
      rcases List.mem_append.1 hmem with hbefore | hnew
      · exact hawaits.isEarlier point hbefore
      · have hstop := (Interval.contains_some_iff.1 ((hoffers point).1 hnew).inWindow).2
        have hafter : clock.truncate < time :=
          (Instant.lt_of_nano_eq_zero hwhole).2 (not_le.1 hclock)
        exact lt_of_le_of_lt hstop hafter

theorem Has.run (hhas : watch.Has name time) (hhealthy : watch.Healthy target first)
    (events : List WatchEvent) : (watch.run events).Has name time := by
  induction events generalizing watch with
  | nil => exact hhas
  | cons event rest ih => exact ih (hhas.step hhealthy event) (hhealthy.step event)

theorem Passed.run (hpassed : watch.Passed name time) (hhealthy : watch.Healthy target first)
    (events : List WatchEvent) : (watch.run events).Passed name time := by
  induction events generalizing watch with
  | nil => exact hpassed
  | cons event rest ih => exact ih (hpassed.step hhealthy event) (hhealthy.step event)

theorem Awaits.run (hawaits : watch.Awaits name time) (hhealthy : watch.Healthy target first)
    (hfirst : first < time) (hwhole : time.nano = 0)
    (hfits : Glob.fits target.toList name.toList = true) (events : List WatchEvent) :
    (watch.run events).Has name time ∨ (watch.run events).Awaits name time := by
  induction events generalizing watch with
  | nil => exact Or.inr hawaits
  | cons event rest ih =>
    rcases hawaits.step hhealthy hfirst hwhole hfits event with hhas | hstill
    · exact Or.inl (hhas.run (hhealthy.step event) rest)
    · exact ih hstill (hhealthy.step event)

/-- Whether something was picked up decides whether a resting tail has delivered it. -/
theorem IsResting.has_iff (hresting : watch.IsResting) :
    watch.Has name time ↔
      ∃ point ∈ watch.journal.delivered, point.name = name ∧ point.time = time := by
  rw [Has, hresting.pickedUp_eq]

/-- What was written is held, and is awaited if all that was picked up is earlier. -/
theorem awaits_submit (hhealthy : watch.Healthy target first) {submission : Submission}
    {point : Point} (hmem : point ∈ submission.points)
    (hearlier : ∀ other ∈ watch.pickedUp, other.time < point.time.wholeSecond) :
    (watch.step (.submit submission)).Awaits point.name point.time.wholeSecond := by
  refine ⟨?_, hearlier⟩
  have hstore := (Installation.submit_spec hhealthy.serving.isWhole submission).1
  rw [Watch.step, hstore]
  exact Store.exists_sample?_withPoints hmem

end Runs

/-- Let a record be taken by the installation that stands for a point which fits the tail and is
stamped after its start. Once a poll that began later, and whose clock has reached the
second of the point, is complete, a point for its name and second has been delivered exactly
if one had been picked up when the record was written, or if everything picked up then was
of earlier seconds. -/
theorem submitted_delivered_iff (target : String) (first : Instant)
    (before between later : List WatchEvent) (submission : Submission) (record : Record)
    (point : Point) (clock : Instant) (hrecord : record ∈ submission.records)
    (hpoint : record.point submission.clock = .ok point)
    (htaken : submission.isRefused = false)
    (hfits : Glob.fits target.toList point.name.toList = true)
    (hfirst : first < point.time.wholeSecond)
    (hbegins : ((start target first).run (before ++ .submit submission :: between)).IsResting)
    (hclock : point.time.second ≤ clock.second)
    (hcomplete : ((start target first).run
      (before ++ .submit submission :: between ++ .poll clock :: later)).IsResting) :
    (∃ delivered ∈ ((start target first).run
        (before ++ .submit submission :: between ++ .poll clock :: later)).journal.delivered,
      delivered.name = point.name ∧ delivered.time = point.time.wholeSecond) ↔
    ((start target first).run before).Has point.name point.time.wholeSecond ∨
      ∀ earlier ∈ ((start target first).run before).pickedUp,
        earlier.time < point.time.wholeSecond := by
  rw [← hcomplete.has_iff]
  rw [run_append] at hbegins hcomplete ⊢
  rw [run_append]
  set written := (start target first).run before
  have hhealthy : written.Healthy target first := (healthy_start target first).run before
  have hmem : point ∈ submission.points := by
    rw [Submission.points, if_neg (by simp [htaken])]
    exact List.mem_filterMap.2 ⟨record, hrecord, Record.point?_eq_some_iff.2 hpoint⟩
  have hwhole : point.time.wholeSecond.nano = 0 := rfl
  have hthen : (written.run (.submit submission :: between)).Healthy target first :=
    hhealthy.run _
  have hpolled := hthen.step (.poll clock)
  constructor
  · -- A tail that has passed the second has still passed it in the end.
    intro hhas
    by_contra hneither
    obtain ⟨hmissing, hnot⟩ := not_or.1 hneither
    push Not at hnot
    have hpassed : written.Passed point.name point.time.wholeSecond := ⟨hmissing, hnot⟩
    exact ((hpassed.run hhealthy _).run hthen _).isMissing hhas
  · rintro (hhas | hearlier)
    · exact (hhas.run hhealthy _).run hthen _
    · have hsubmitted := hhealthy.step (.submit submission)
      have hreached : ((written.run (.submit submission :: between)).step (.poll clock)).Has
          point.name point.time.wholeSecond := by
        rcases (awaits_submit hhealthy hmem hearlier).run hsubmitted hfirst hwhole hfits
            between with hhas | hawaits
        · exact hhas.step hthen _
        · exact hawaits.poll hthen hbegins hfirst hwhole hfits hclock
      exact hreached.run hpolled later

/-! ### Two series in one second -/

/-- What was written before a poll reads the clock of the same second is delivered by it. -/
theorem submitted_at_noon_delivered :
    ∃ delivered ∈ ((start "m.*" dawn).run
        ([.poll dawn] ++ .submit ⟨noon, [untimed "m.a" 1], false⟩ :: [] ++
          .poll noon :: [.push, .push])).journal.delivered,
      delivered.name = "m.a" ∧ delivered.time = noon.wholeSecond :=
  (submitted_delivered_iff "m.*" dawn [.poll dawn] [] [.push, .push]
    ⟨noon, [untimed "m.a" 1], false⟩ (untimed "m.a" 1) ⟨noon, "m.a", Binary64.ofInt 1⟩ noon
    List.mem_cons_self rfl rfl (by decide +kernel) (by decide) (by decide +kernel) (by decide)
    (by decide +kernel)).2 (Or.inr (by decide +kernel))

/-- One series is written at noon, and a poll at noon delivers it. -/
def polledAtNoon : Watch :=
  (start "m.*" dawn).run
    [.submit ⟨noon, [untimed "m.a" 1], false⟩, .poll noon, .push, .push]

theorem passed_polledAtNoon : polledAtNoon.Passed "m.b" noon where
  isMissing := by
    rw [Has]
    decide +kernel
  isPast := by decide +kernel

/-- Another series is written at noon after that poll. The next poll begins later, in the second
after noon, and comes to its end; but whatever happens, the tail never delivers
the second series. -/
theorem second_series_at_noon_missed :
    let written := [WatchEvent.submit ⟨noon, [untimed "m.b" 2], false⟩, .poll afterNoon]
    polledAtNoon.IsResting ∧
      (untimed "m.b" 2).point noon = .ok ⟨noon, "m.b", Binary64.ofInt 2⟩ ∧
      Glob.fits "m.*".toList "m.b".toList = true ∧ dawn < noon ∧
      (∃ later, (polledAtNoon.run (written ++ later)).IsResting) ∧
      ∀ later, ¬ ∃ delivered ∈ (polledAtNoon.run (written ++ later)).journal.delivered,
        delivered.name = "m.b" ∧ delivered.time = noon := by
  intro written
  have hhealthy : polledAtNoon.Healthy "m.*" dawn := (healthy_start "m.*" dawn).run _
  refine ⟨by decide +kernel, rfl, by decide +kernel, by decide, ?_, ?_⟩
  · obtain ⟨later, -, hresting⟩ := (hhealthy.run written).exists_run_isResting
    refine ⟨later, ?_⟩
    rw [run_append]
    exact hresting
  · rintro later ⟨delivered, hmem, hsame⟩
    have hpassed := passed_polledAtNoon.run hhealthy (written ++ later)
    exact hpassed.isMissing ⟨delivered, List.mem_append_left _ hmem, hsame⟩

end Watch

end MetricBridge
