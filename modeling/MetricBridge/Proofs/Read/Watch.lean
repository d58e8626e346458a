/-
# A tail of an installation that is written to

Writes, polls and the reader take turns in any order here. A write may fall between two
polls or into the middle of one, while its points wait for room in the queue; the clock of each
write and of each poll is its own. Only reading the clock and being answered are one event,
because the installation answers at once.

Of such a run three things matter: what the store holds, which points the tail has picked
up, and what the clock showed to its polls. `Healthy.effect` says all that an event can do to
them.
-/

import Mathlib
import MetricBridge.Proofs.Read.Journal
import MetricBridge.Proofs.Store.Submissions

namespace MetricBridge

open Time (Instant)

/-- A tail, with its journal, and the installation that it asks. -/
structure Watch where
  journal : Journal
  installation : Installation

/-- What can happen to a tail and its installation. -/
inductive WatchEvent where
  /-- Something is written. -/
  | submit (submission : Submission)
  /-- A poll begins if none is going on: the clock is read, and the installation answers if it
  is asked. -/
  | poll (clock : Instant)
  /-- The poller puts an item into the queue, or ends its poll. -/
  | push
  /-- The reader looks for an item. -/
  | take

namespace Watch

/-- A tail of an installation that is still empty. -/
def start (target : String) (first : Instant) : Watch :=
  ⟨Journal.start target first, Installation.empty⟩

/-- The poller is woken and reads the clock, and its question is answered. -/
def poll (watch : Watch) (clock : Instant) : Watch :=
  let journal := (watch.journal.step .wake).step (.readClock clock)
  match journal.tail.phase with
  | .asking query =>
    let (answer, installation) := Installation.load query watch.installation
    ⟨journal.step (.receive answer), installation⟩
  | _ => ⟨journal, watch.installation⟩

def step (watch : Watch) : WatchEvent → Watch
  | .submit submission => ⟨watch.journal, watch.installation.submit submission⟩
  | .poll clock => watch.poll clock
  | .push => ⟨watch.journal.step .push, watch.installation⟩
  | .take => ⟨watch.journal.step .take, watch.installation⟩

/-- What has become of a watch after some events. -/
def run (watch : Watch) (events : List WatchEvent) : Watch :=
  events.foldl step watch

theorem run_append (watch : Watch) (events more : List WatchEvent) :
    watch.run (events ++ more) = (watch.run events).run more :=
  List.foldl_append

/-- No poll is going on: the last one is complete, or there was none. -/
def IsResting (watch : Watch) : Prop :=
  watch.journal.tail.phase = .ready ∨ watch.journal.tail.phase = .sleeping

instance (watch : Watch) : Decidable watch.IsResting :=
  inferInstanceAs (Decidable (_ ∨ _))

/-- The points of all answers so far, in the queue already or still to be put there. -/
def pickedUp (watch : Watch) : List Point :=
  watch.journal.delivered ++ watch.journal.pending

/-- What the clock showed to the polls so far, the latest first. -/
def nows (watch : Watch) : List Instant :=
  watch.journal.polls.map Poll.now

theorem IsResting.pending_eq_nil {watch : Watch} (hresting : watch.IsResting) :
    watch.journal.pending = [] := by
  unfold Journal.pending
  rcases hresting with hphase | hphase <;> rw [hphase]

theorem IsResting.pickedUp_eq {watch : Watch} (hresting : watch.IsResting) :
    watch.pickedUp = watch.journal.delivered := by
  rw [pickedUp, hresting.pending_eq_nil, List.append_nil]

/-- A tail that was started at an instant and has neither failed nor been cancelled, on an
installation that answers. -/
structure Healthy (target : String) (first : Instant) (watch : Watch) : Prop where
  sound : watch.journal.Sound first
  serving : watch.installation.Serving
  target_eq : watch.journal.tail.target = target
  isGoing : watch.journal.tail.isCancelled = false
  phase : watch.IsResting ∨ ∃ rest, watch.journal.tail.phase = .queuing rest

theorem healthy_start (target : String) (first : Instant) :
    (start target first).Healthy target first where
  sound := Journal.sound_start target first
  serving := Installation.serving_empty
  target_eq := rfl
  isGoing := rfl
  phase := Or.inl (Or.inl rfl)

section Events

variable {target : String} {first : Instant} {watch : Watch}

/-- The cursor of a resting tail is the latest instant that it has picked up. -/
theorem Healthy.cursor_isGreatest (hhealthy : watch.Healthy target first)
    (hresting : watch.IsResting) :
    IsGreatest (insert first {time | ∃ point ∈ watch.pickedUp, point.time = time})
      watch.journal.tail.cursor := by
  rw [hresting.pickedUp_eq]
  exact hhealthy.sound.cursor

theorem IsResting.step_wake (hresting : watch.IsResting)
    (hgoing : watch.journal.tail.isCancelled = false) :
    watch.journal.step .wake =
      { watch.journal with tail := { watch.journal.tail with phase := .ready } } := by
  obtain ⟨⟨⟨_, _, phase, _, isCancelled⟩, _, _⟩, _⟩ := watch
  obtain rfl : isCancelled = false := hgoing
  rcases hresting with hphase | hphase
  · obtain rfl : phase = .ready := hphase
    rfl
  · obtain rfl : phase = .sleeping := hphase
    rfl

/-- In a resting tail a poll picks up what the store holds after the cursor and up to the
present second. -/
theorem Healthy.poll_of_isResting (hhealthy : watch.Healthy target first)
    (hresting : watch.IsResting) (clock : Instant) :
    ∃ points phase window installation,
      watch.poll clock = ⟨⟨{ watch.journal.tail with phase },
          ⟨clock.truncate, watch.journal.tail.cursor, window, []⟩ :: watch.journal.polls,
          watch.journal.taken⟩, installation⟩ ∧
      (phase = .queuing points ∨ phase = .sleeping ∧ points = []) ∧
      installation.Serving ∧ installation.store = watch.installation.store ∧
      points.Pairwise Point.Before ∧
      ∀ point, point ∈ points ↔ watch.installation.store.Offers
        ⟨target, ⟨some watch.journal.tail.cursor, clock.truncate⟩⟩ point := by
  obtain ⟨-, hserving, htarget, hgoing, -⟩ := hhealthy
  have hwake := hresting.step_wake hgoing
  set ready : Journal :=
    { watch.journal with tail := { watch.journal.tail with phase := .ready } }
  rcases le_or_gt clock.truncate watch.journal.tail.cursor with hle | hlt
  · have hread : ready.step (.readClock clock) = _ :=
      Journal.step_readClock_of_le rfl hgoing hle
    refine ⟨[], .sleeping, none, watch.installation, ?_, Or.inr ⟨rfl, rfl⟩, hserving, rfl,
      List.Pairwise.nil, ?_⟩
    · rw [poll, hwake, hread]
    · intro point
      have hempty : Interval.isEmpty ⟨some watch.journal.tail.cursor, clock.truncate⟩ = true :=
        decide_eq_true hle
      constructor
      · intro hmem
        cases hmem
      · intro hoffers
        have hcontains := hoffers.inWindow
        rw [Interval.contains_eq_false_of_isEmpty hempty] at hcontains
        cases hcontains
  · have hread : ready.step (.readClock clock) = _ :=
      Journal.step_readClock_of_lt rfl hgoing hlt
    set query : Query := ⟨target, ⟨some watch.journal.tail.cursor, clock.truncate⟩⟩ with hquery
    obtain ⟨hanswer, hstore, hstill⟩ := hserving.load query
    obtain ⟨points, hselect, hordered, hmem⟩ :=
      Store.select_answer hserving.wellFormed query
    refine ⟨points, .queuing points, some query.window,
      (Installation.load query watch.installation).2, ?_, Or.inl rfl, hstill, hstore, hordered,
      hmem⟩
    have hasked : ready.tail.queryUntil clock.truncate = query := by
      rw [hquery, ← htarget]
      rfl
    rw [hasked] at hread
    have hready : ¬ ready.tail.isCancelled = true := Bool.eq_false_iff.1 hgoing
    rw [poll, hwake, hread]
    simp only [Journal.step, Tail.receive, if_neg hready, hanswer, hselect]
    rfl

/-- While a poll is going on, no other one begins. -/
theorem poll_of_queuing {rest : List Point} (hphase : watch.journal.tail.phase = .queuing rest)
    (clock : Instant) : watch.poll clock = watch := by
  have hwake : watch.journal.step .wake = watch.journal := by
    simp [Journal.step, Tail.wake, hphase]
  have hread : watch.journal.step (.readClock clock) = watch.journal := by
    simp [Journal.step, Tail.readClock, Journal.pollsAt, hphase]
  simp [poll, hwake, hread, hphase]

/-- Whatever a poll comes to, it takes steps of the tail. -/
theorem sound_poll (hsound : watch.journal.Sound first) (clock : Instant) :
    (watch.poll clock).journal.Sound first := by
  have hread := (hsound.step .wake).step (.readClock clock)
  simp only [poll]
  split
  next query hasking => exact hread.step (.receive _)
  next => exact hread

/-- A push in a healthy tail moves a point into the queue, or ends the poll, or has to wait. -/
theorem Healthy.push_cases (hhealthy : watch.Healthy target first) :
    (∃ point rest, watch.journal.tail.phase = .queuing (point :: rest) ∧
      watch.journal.step .push = ⟨{ watch.journal.tail with
          phase := .queuing rest
          queue := watch.journal.tail.queue ++ [.ok point]
          cursor := max watch.journal.tail.cursor point.time },
        Journal.note [point] watch.journal.polls, watch.journal.taken⟩) ∨
    (watch.journal.tail.phase = .queuing [] ∧
      watch.journal.step .push =
        { watch.journal with tail := { watch.journal.tail with phase := .sleeping } }) ∨
    watch.journal.step .push = watch.journal := by
  rcases watch.journal.step_push_cases with hpoint | ⟨fault, hphase, -⟩ | hdone |
    ⟨hcancelled, -⟩ | hwaiting
  · exact Or.inl hpoint
  · rcases hhealthy.phase with (hready | hsleeping) | ⟨rest, hqueuing⟩
    · rw [hphase] at hready
      cases hready
    · rw [hphase] at hsleeping
      cases hsleeping
    · rw [hphase] at hqueuing
      cases hqueuing
  · exact Or.inr (Or.inl hdone)
  · rw [hhealthy.isGoing] at hcancelled
    cases hcancelled
  · exact Or.inr (Or.inr hwaiting)

/-- The tail stays healthy whatever happens next. -/
theorem Healthy.step (hhealthy : watch.Healthy target first) (event : WatchEvent) :
    (watch.step event).Healthy target first := by
  cases event with
  | submit submission =>
    exact { hhealthy with serving := hhealthy.serving.submit submission }
  | poll clock =>
    have hsound := sound_poll hhealthy.sound clock
    rw [Watch.step]
    rcases hhealthy.phase with hresting | ⟨rest, hphase⟩
    · obtain ⟨points, phase, window, installation, hpoll, hnext, hserving, -⟩ :=
        hhealthy.poll_of_isResting hresting clock
      rw [hpoll] at hsound ⊢
      refine ⟨hsound, hserving, hhealthy.target_eq, hhealthy.isGoing, ?_⟩
      rcases hnext with rfl | ⟨rfl, -⟩
      · exact Or.inr ⟨points, rfl⟩
      · exact Or.inl (Or.inr rfl)
    · rw [poll_of_queuing hphase]
      exact hhealthy
  | push =>
    have hsound := hhealthy.sound.step .push
    rw [Watch.step]
    rcases hhealthy.push_cases with ⟨point, rest, -, hpush⟩ | ⟨-, hpush⟩ | hpush
    · rw [hpush] at hsound ⊢
      exact ⟨hsound, hhealthy.serving, hhealthy.target_eq, hhealthy.isGoing, Or.inr ⟨rest, rfl⟩⟩
    · rw [hpush] at hsound ⊢
      exact ⟨hsound, hhealthy.serving, hhealthy.target_eq, hhealthy.isGoing,
        Or.inl (Or.inr rfl)⟩
    · rw [hpush]
      exact hhealthy
  | take =>
    have hsound := hhealthy.sound.step .take
    rw [Watch.step]
    rcases watch.journal.step_take_cases with ⟨item, rest, -, htake⟩ | htake
    · rw [htake] at hsound ⊢
      exact ⟨hsound, hhealthy.serving, hhealthy.target_eq, hhealthy.isGoing, hhealthy.phase⟩
    · rw [htake]
      exact hhealthy

theorem Healthy.run (hhealthy : watch.Healthy target first) (events : List WatchEvent) :
    (watch.run events).Healthy target first := by
  induction events generalizing watch with
  | nil => exact hhealthy
  | cons event rest ih => exact ih (hhealthy.step event)

end Events

/-! ### Polls come to an end -/

/-- Pushes and takes are the events that a poll needs to come to an end. -/
def IsMove (event : WatchEvent) : Prop :=
  event = .push ∨ event = .take

section Moves

variable {target : String} {first : Instant} {watch : Watch}

/-- The reader can empty the queue, which leaves the poller where it is. -/
theorem exists_run_queue_eq_nil (hgoing : watch.journal.tail.isCancelled = false) :
    ∃ moves : List WatchEvent, (∀ move ∈ moves, IsMove move) ∧
      (watch.run moves).journal.tail = { watch.journal.tail with queue := [] } := by
  induction hqueue : watch.journal.tail.queue generalizing watch with
  | nil =>
    refine ⟨[], by simp, ?_⟩
    rw [← hqueue]
    rfl
  | cons item rest ih =>
    have htake : (watch.step .take).journal.tail = { watch.journal.tail with queue := rest } := by
      simp [Watch.step, Journal.step, Tail.take, hgoing, hqueue]
    have hstill : (watch.step .take).journal.tail.isCancelled = false := by
      rw [htake]
      exact hgoing
    obtain ⟨moves, hmoves, hempty⟩ := ih hstill (by rw [htake])
    rw [htake] at hempty
    exact ⟨.take :: moves, List.forall_mem_cons.2 ⟨Or.inr rfl, hmoves⟩, hempty⟩

/-- Whatever a poll has picked up, it comes to its end if the reader goes on taking. -/
theorem exists_run_isResting_of_queuing {rest : List Point}
    (hgoing : watch.journal.tail.isCancelled = false)
    (hphase : watch.journal.tail.phase = .queuing rest) :
    ∃ moves : List WatchEvent, (∀ move ∈ moves, IsMove move) ∧ (watch.run moves).IsResting := by
  induction rest generalizing watch with
  | nil =>
    refine ⟨[.push], by simp [IsMove], Or.inr ?_⟩
    simp [run, Watch.step, Journal.step, Tail.push, hphase]
  | cons point rest ih =>
    obtain ⟨takes, htakes, hempty⟩ := exists_run_queue_eq_nil hgoing
    have hpush : ((watch.run takes).step .push).journal.tail =
        { watch.journal.tail with
          phase := .queuing rest
          queue := [.ok point]
          cursor := max watch.journal.tail.cursor point.time } := by
      simp [Watch.step, Journal.step, hempty, Tail.push, Tail.hasRoom, Tail.capacity, hphase,
        hgoing]
    have hstill : ((watch.run takes).step .push).journal.tail.isCancelled = false := by
      rw [hpush]
      exact hgoing
    obtain ⟨moves, hmoves, hresting⟩ := ih hstill (by rw [hpush])
    have hall : ∀ move ∈ takes ++ .push :: moves, IsMove move :=
      List.forall_mem_append.2 ⟨htakes, List.forall_mem_cons.2 ⟨Or.inl rfl, hmoves⟩⟩
    refine ⟨takes ++ .push :: moves, hall, ?_⟩
    rw [run_append]
    exact hresting

theorem Healthy.exists_run_isResting (hhealthy : watch.Healthy target first) :
    ∃ moves : List WatchEvent, (∀ move ∈ moves, IsMove move) ∧ (watch.run moves).IsResting := by
  rcases hhealthy.phase with hresting | ⟨rest, hphase⟩
  · exact ⟨[], by simp, hresting⟩
  · exact exists_run_isResting_of_queuing hhealthy.isGoing hphase

end Moves

/-! ### What an event does -/

/-- What an event does to the store, to what was picked up and to what the clock has shown. -/
inductive Effect (target : String) (before after : Watch) : WatchEvent → Prop
  /-- The points of a write get into the store. -/
  | stored {submission : Submission} :
      after.installation.store = before.installation.store.withPoints submission.points →
      after.pickedUp = before.pickedUp → after.nows = before.nows →
      Effect target before after (.submit submission)
  /-- A poll picks up what the store holds after the cursor and up to the present second. -/
  | picked {clock : Instant} {points : List Point} :
      before.IsResting → points.Pairwise Point.Before →
      (∀ point, point ∈ points ↔ before.installation.store.Offers
        ⟨target, ⟨some before.journal.tail.cursor, clock.truncate⟩⟩ point) →
      after.installation.store = before.installation.store →
      after.pickedUp = before.pickedUp ++ points → after.nows = clock.truncate :: before.nows →
      Effect target before after (.poll clock)
  /-- What was picked up goes on its way, and a poll that is going on lets no other begin. -/
  | moved {event : WatchEvent} :
      (∀ submission, event ≠ .submit submission) →
      (∀ clock, event = .poll clock → ¬ before.IsResting) →
      after.installation.store = before.installation.store →
      after.pickedUp = before.pickedUp → after.nows = before.nows →
      Effect target before after event

theorem map_now_note (points : List Point) (polls : List Poll) :
    (Journal.note points polls).map Poll.now = polls.map Poll.now := by
  cases polls <;> rfl

section Events

variable {target : String} {first : Instant} {watch : Watch}

theorem effect_poll (hhealthy : watch.Healthy target first) (clock : Instant) :
    Effect target watch (watch.step (.poll clock)) (.poll clock) := by
  rw [step]
  rcases hhealthy.phase with hresting | ⟨rest, hphase⟩
  · obtain ⟨points, phase, window, installation, hpoll, hnext, -, hstore, hordered, hmem⟩ :=
      hhealthy.poll_of_isResting hresting clock
    rw [hpoll]
    refine Effect.picked hresting hordered hmem hstore ?_ rfl
    have hpending : Journal.pending ⟨{ watch.journal.tail with phase },
        ⟨clock.truncate, watch.journal.tail.cursor, window, []⟩ :: watch.journal.polls,
        watch.journal.taken⟩ = points := by
      rcases hnext with rfl | ⟨rfl, rfl⟩ <;> rfl
    rw [pickedUp, hpending, hresting.pickedUp_eq, Journal.delivered_of_polls_eq_cons rfl,
      List.append_nil, Journal.delivered]
  · rw [poll_of_queuing hphase]
    refine Effect.moved (by simp) (fun _ _ => ?_) rfl rfl rfl
    rw [IsResting, hphase]
    simp

theorem effect_push (hhealthy : watch.Healthy target first) :
    Effect target watch (watch.step .push) .push := by
  rw [step]
  rcases hhealthy.push_cases with ⟨point, rest, hphase, hpush⟩ | ⟨hphase, hpush⟩ | hpush
  · rw [hpush]
    refine Effect.moved (by simp) (by simp) rfl ?_ (map_now_note _ _)
    obtain ⟨poll, earlier, hpolls, -⟩ : Journal.Underway watch.journal.polls (.queuing _) :=
      hphase ▸ hhealthy.sound.underway
    simp only [pickedUp, Journal.pending, hphase, Journal.delivered, hpolls, Journal.note,
      List.reverse_cons, List.flatMap_append, List.flatMap_singleton, List.append_assoc,
      List.singleton_append]
  · rw [hpush]
    refine Effect.moved (by simp) (by simp) rfl ?_ rfl
    simp only [pickedUp, Journal.pending, hphase, Journal.delivered]
  · rw [hpush]
    exact Effect.moved (by simp) (by simp) rfl rfl rfl

/-- Each event on a healthy tail has one of the effects. -/
theorem Healthy.effect (hhealthy : watch.Healthy target first) (event : WatchEvent) :
    Effect target watch (watch.step event) event := by
  cases event with
  | submit submission =>
    exact Effect.stored (Installation.submit_spec hhealthy.serving.isWhole submission).1 rfl rfl
  | poll clock => exact effect_poll hhealthy clock
  | push => exact effect_push hhealthy
  | take =>
    rw [Watch.step]
    rcases watch.journal.step_take_cases with ⟨item, rest, -, htake⟩ | htake <;> rw [htake]
    · exact Effect.moved (by simp) (by simp) rfl rfl rfl
    · exact Effect.moved (by simp) (by simp) rfl rfl rfl

end Events

/-! ### A few instants and records to try things on -/

/-- A record of a name and a whole value, without a time. -/
def untimed (name : String) (value : Int) : Record :=
  [("name", .string name), ("value", .number (.whole value))]

def dawn : Instant :=
  ⟨990, 0, by decide, by decide⟩

def noon : Instant :=
  ⟨1000, 0, by decide, by decide⟩

def afterNoon : Instant :=
  ⟨1001, 0, by decide, by decide⟩

def evening : Instant :=
  ⟨1005, 0, by decide, by decide⟩

end Watch

end MetricBridge
