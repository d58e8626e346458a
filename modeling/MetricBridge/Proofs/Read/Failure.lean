/-
# A fault ends a tail

A query of a tail may fail, and the answer to it may have a time that is none. Nothing that was
delivered before is lost by that: the reader gets the points of all earlier answers, then the fault,
and then finds that the tail has ended. Nothing of the bad answer is handed out, and the store is
not asked again, whatever the clock shows.

The reader need not be quick, and the queue may be full for a while. All that is asked is that both
sides have their turn now and then.
-/

import Mathlib
import MetricBridge.Proofs.Read.Cancellation
import MetricBridge.Proofs.Read.Exact

namespace MetricBridge

open Time (Instant)

/-! ### Queries and their answers -/

/-- A query and what the store answered. -/
structure Exchange where
  query : Query
  answer : Except Fault (List Series)
  deriving DecidableEq

namespace Exchange

/-- The store answered, and the times of its data are seconds in range. -/
def IsWellFormed (exchange : Exchange) : Prop :=
  ∃ series, exchange.answer = .ok series ∧ ∀ datum ∈ Series.dataOf series, datum.IsUsable

/-- What comes of the answer. -/
def items (exchange : Exchange) : List Item :=
  BoundedRead.itemsOf (exchange.query.select exchange.answer)

/-- The points that come of the answer. -/
def points (exchange : Exchange) : List Point :=
  exchange.items.filterMap Except.toOption

theorem select_cases (exchange : Exchange) :
    (exchange.IsWellFormed ∧
      ∃ points, exchange.query.select exchange.answer = .ok points) ∨
    (¬ exchange.IsWellFormed ∧
      ∃ fault, exchange.query.select exchange.answer = .error fault) := by
  obtain ⟨query, answer⟩ := exchange
  cases answer with
  | error fault =>
    refine Or.inr ⟨?_, fault, rfl⟩
    rintro ⟨series, hanswer, -⟩
    cases hanswer
  | ok series =>
    simp only [Query.select_ok, Series.collect_eq_mapM]
    rcases Datum.isUsable_or_exists_first (Series.dataOf series) with
      husable | ⟨before, datum, after, hdata, hfirst, hunusable⟩
    · rw [Datum.mapM_point_of_isUsable husable]
      exact Or.inl ⟨⟨series, rfl, husable⟩, _, rfl⟩
    · obtain ⟨fault, hfault⟩ := Datum.point_of_not_isUsable hunusable
      rw [hdata, Datum.mapM_point_of_not_isUsable hfirst hfault]
      refine Or.inr ⟨?_, fault, rfl⟩
      rintro ⟨_, ⟨⟩, husable⟩
      exact hunusable (husable datum (by simp [hdata]))

theorem isWellFormed_iff {exchange : Exchange} :
    exchange.IsWellFormed ↔ ∃ points, exchange.query.select exchange.answer = .ok points := by
  rcases exchange.select_cases with ⟨hgood, hpoints⟩ | ⟨hbad, fault, hselect⟩
  · exact iff_of_true hgood hpoints
  · simp [hbad, hselect]

theorem items_of_isWellFormed {exchange : Exchange} (hgood : exchange.IsWellFormed) :
    exchange.items = exchange.points.map Except.ok := by
  rcases exchange.select_cases with ⟨-, points, hselect⟩ | ⟨hbad, -⟩
  · have hitems : exchange.items = points.map Except.ok := by
      rw [items, hselect, BoundedRead.itemsOf]
    have hpoints : exchange.points = points := by
      rw [Exchange.points, hitems, List.filterMap_map]
      exact List.filterMap_some
    rw [hitems, hpoints]
  · exact absurd hgood hbad

theorem items_of_not_isWellFormed {exchange : Exchange} (hbad : ¬ exchange.IsWellFormed) :
    ∃ fault, exchange.items = [.error fault] := by
  rcases exchange.select_cases with ⟨hgood, -⟩ | ⟨-, fault, hselect⟩
  · exact absurd hgood hbad
  · exact ⟨fault, by rw [items, hselect, BoundedRead.itemsOf]⟩

end Exchange

/-! ### What a poller has in hand -/

namespace TailPhase

/-- The query that was started and is not answered. -/
def unanswered : TailPhase → List Query
  | .asking query => [query]
  | _ => []

theorem unanswered_eq_nil {phase : TailPhase} (hother : ∀ query, phase ≠ .asking query) :
    phase.unanswered = [] := by
  cases phase with
  | asking query => exact absurd rfl (hother query)
  | _ => rfl

/-- What is to be put into the queue. -/
def inHand : TailPhase → List Item
  | .queuing points => points.map Except.ok
  | .failing fault => [.error fault]
  | _ => []

/-- No poll will follow. -/
def IsEnding : TailPhase → Prop
  | .failing _ | .stopped => True
  | _ => False

theorem unanswered_of_isEnding {phase : TailPhase} (hending : phase.IsEnding) :
    phase.unanswered = [] := by
  apply unanswered_eq_nil
  rintro query rfl
  exact hending

end TailPhase

namespace Tail

variable {tail : Tail}

/-- What the reader of a tail has yet to get of what was answered. -/
def remaining (tail : Tail) : List Item :=
  tail.queue ++ tail.phase.inHand

/-- A bound on the number of turns after which the reader has got all that. -/
def undone (tail : Tail) : Nat :=
  tail.queue.length + 2 * tail.phase.inHand.length

theorem remaining_eq_nil_of_undone (hundone : tail.undone = 0) : tail.remaining = [] := by
  rw [remaining, ← List.length_eq_zero_iff, List.length_append]
  rw [undone] at hundone
  omega

/-- A poller that is ending has at most its fault in hand. -/
theorem undone_le_of_isEnding (hending : tail.phase.IsEnding) :
    tail.undone ≤ tail.remaining.length + 1 := by
  rw [undone, remaining, List.length_append]
  cases hphase : tail.phase with
  | failing fault => simp [TailPhase.inHand]
  | stopped => simp [TailPhase.inHand]
  | _ =>
    rw [hphase] at hending
    exact hending.elim

/-- A poller that is ending goes by no clock and by no answer. -/
theorem fixed_of_isEnding (hending : tail.phase.IsEnding) :
    (∀ clock, tail.readClock clock = tail ∧ tail.query? clock = none) ∧
      (∀ answer, tail.receive answer = tail) ∧ tail.wake = tail := by
  cases hphase : tail.phase <;> rw [hphase] at hending <;>
    first
    | exact hending.elim
    | simp [readClock, query?, receive, wake, hphase]

/-- A poller that acts on the clock starts a query, or rests, or is busy with something else. -/
theorem readClock_cases (hgoing : tail.isCancelled = false) (clock : Instant) :
    (∃ query, tail.phase = .ready ∧ tail.query? clock = some query ∧
      (∀ start ∈ query.window.start, start < query.window.stop) ∧
      tail.readClock clock = { tail with phase := .asking query }) ∨
    (tail.phase = .ready ∧ tail.query? clock = none ∧
      tail.readClock clock = { tail with phase := .sleeping }) ∨
    (tail.query? clock = none ∧ tail.readClock clock = tail) := by
  by_cases hready : tail.phase = .ready
  · by_cases hpast : clock.truncate ≤ tail.cursor
    · refine Or.inr (Or.inl ⟨hready, ?_, ?_⟩) <;> simp [query?, readClock, hready, hgoing, hpast]
    · refine Or.inl ⟨tail.queryUntil clock.truncate, hready, ?_, ?_, ?_⟩
      · simp [query?, readClock, hready, hgoing, hpast]
      · rintro _ ⟨⟩
        exact not_le.1 hpast
      · simp [readClock, hready, hgoing, hpast]
  · refine Or.inr (Or.inr ⟨?_, ?_⟩)
    · cases hphase : tail.phase <;> simp_all [query?]
    · unfold readClock
      split
      next hphase => exact absurd hphase hready
      next => rfl

/-- The poller takes an answer if it waits for one, and otherwise nothing happens. -/
theorem receive_cases (hgoing : tail.isCancelled = false) (answer : Except Fault (List Series)) :
    (∃ query points, tail.phase = .asking query ∧ query.select answer = .ok points ∧
      tail.receive answer = { tail with phase := .queuing points }) ∨
    (∃ query fault, tail.phase = .asking query ∧ query.select answer = .error fault ∧
      tail.receive answer = { tail with phase := .failing fault }) ∨
    ((∀ query, tail.phase ≠ .asking query) ∧ tail.receive answer = tail) := by
  unfold receive
  split
  next query hphase =>
    rw [if_neg (by simp [hgoing])]
    cases hselect : query.select answer with
    | ok points => exact Or.inl ⟨query, points, hphase, hselect, rfl⟩
    | error fault => exact Or.inr (Or.inl ⟨query, fault, hphase, hselect, rfl⟩)
  next hother => exact Or.inr (Or.inr ⟨hother, rfl⟩)

theorem wake_cases (hgoing : tail.isCancelled = false) :
    (tail.phase = .sleeping ∧ tail.wake = { tail with phase := .ready }) ∨ tail.wake = tail := by
  unfold wake
  split
  next hphase =>
    rw [if_neg (by simp [hgoing])]
    exact Or.inl ⟨hphase, rfl⟩
  next => exact Or.inr rfl

/-- The tail after a step, given what its poller has read from the clock. -/
def after (clock : Option Instant) (tail : Tail) : ReadStep → Tail
  | .readClock _ => tail
  | .startQuery => clock.elim tail tail.readClock
  | .receive answer => tail.receive answer
  | .push => tail.push
  | .wake => tail.wake
  | .look => tail.take.2
  | .cancel _ => tail.cancel

/-- The reader takes the first item of the queue. There is none if the queue is empty, and then
none will come if the poller has stopped. -/
theorem take_cases (hgoing : tail.isCancelled = false) :
    (∃ item rest, tail.queue = item :: rest ∧
      tail.take = (.item item, { tail with queue := rest })) ∨
    (tail.queue = [] ∧ tail.phase = .stopped ∧ tail.take = (.finished, tail)) ∨
    (tail.queue = [] ∧ tail.phase ≠ .stopped ∧ tail.take = (.pending, tail)) := by
  unfold take
  rw [if_neg (by simp [hgoing])]
  cases hqueue : tail.queue with
  | cons item rest => exact Or.inl ⟨item, rest, rfl, rfl⟩
  | nil =>
    by_cases hstopped : tail.phase = .stopped
    · exact Or.inr (Or.inl ⟨rfl, hstopped, by simp [hstopped]⟩)
    · exact Or.inr (Or.inr ⟨rfl, hstopped, by simp [hstopped]⟩)

/-- A poller that is ending puts its fault into the queue unless that is full. -/
theorem push_of_isEnding (hgoing : tail.isCancelled = false) (hending : tail.phase.IsEnding) :
    tail.push.undone < tail.undone ∨
      tail.push = tail ∧ (tail.queue = [] → tail.phase.inHand = []) := by
  cases hphase : tail.phase with
  | failing fault =>
    by_cases hroom : tail.hasRoom = true
    · left
      simp [push, undone, hphase, hgoing, hroom, TailPhase.inHand]
    · refine Or.inr ⟨by simp [push, hphase, hgoing, hroom], ?_⟩
      intro hqueue
      simp [hasRoom, hqueue, capacity] at hroom
  | stopped => exact Or.inr ⟨by simp [push, hphase], fun _ => rfl⟩
  | _ =>
    rw [hphase] at hending
    exact hending.elim

/-- A reader takes an item unless there is none. -/
theorem undone_take (hgoing : tail.isCancelled = false) :
    tail.take.2.undone < tail.undone ∨ tail.take.2 = tail ∧ tail.queue = [] := by
  rcases take_cases hgoing with ⟨item, rest, hqueue, htake⟩ | ⟨hqueue, -, htake⟩ |
    ⟨hqueue, -, htake⟩ <;> rw [htake]
  · left
    simp [undone, hqueue]
  · exact Or.inr ⟨rfl, hqueue⟩
  · exact Or.inr ⟨rfl, hqueue⟩

/-- Once the poller is ending, a step brings the reader closer to the end, or it leaves the tail as
it is. The latter is no step of a side that can do something. -/
theorem after_of_isEnding (hgoing : tail.isCancelled = false) (hending : tail.phase.IsEnding)
    (clock : Option Instant) {next : ReadStep} (hkept : ∀ ending, next ≠ .cancel ending) :
    (tail.after clock next).undone < tail.undone ∨
      tail.after clock next = tail ∧ (next = .look → tail.queue = []) ∧
        (next = .push → tail.queue = [] → tail.phase.inHand = []) := by
  obtain ⟨hclock, hreceive, hwake⟩ := fixed_of_isEnding hending
  cases next with
  | readClock now => exact Or.inr ⟨rfl, nofun, nofun⟩
  | startQuery =>
    refine Or.inr ⟨?_, nofun, nofun⟩
    cases clock with
    | none => rfl
    | some now => exact (hclock now).1
  | receive answer => exact Or.inr ⟨hreceive answer, nofun, nofun⟩
  | push =>
    rcases push_of_isEnding hgoing hending with hless | ⟨hsame, hidle⟩
    · exact Or.inl hless
    · exact Or.inr ⟨hsame, nofun, fun _ => hidle⟩
  | wake => exact Or.inr ⟨hwake, nofun, nofun⟩
  | look =>
    rcases undone_take hgoing with hless | ⟨hsame, hidle⟩
    · exact Or.inl hless
    · exact Or.inr ⟨hsame, fun _ => hidle, nofun⟩
  | cancel ending => exact absurd rfl (hkept ending)

end Tail

/-! ### What comes of all answers -/

namespace Course

/-- The course of a tail of everything after an instant, before its first step. -/
def opened (target : String) (first : Instant) : Course :=
  ⟨.live (Tail.start target first) none, true, [], [], []⟩

/-- The query that a step answers, with the answer. -/
def exchange? (course : Course) : ReadStep → Option Exchange
  | .receive answer =>
    match course.reading with
    | .live tail _ => tail.phase.unanswered.head?.map fun query => ⟨query, answer⟩
    | .bounded _ _ => none
  | _ => none

/-- The queries that are answered in the course of some steps, with their answers. -/
def exchanges (course : Course) : List ReadStep → List Exchange
  | [] => []
  | next :: rest => (course.exchange? next).toList ++ (course.step next).exchanges rest

/-- The notes on a tail tell what has come of the answers so far. -/
structure Accounts (exchanges : List Exchange) (tail : Tail) (course : Course) : Prop where
  live : ∃ clock, course.reading = .live tail clock
  isHeld : course.isHeld = true
  isGoing : tail.isCancelled = false
  queries : course.queries = exchanges.map Exchange.query ++ tail.phase.unanswered
  windows : ∀ query ∈ course.queries, ∀ start ∈ query.window.start, start < query.window.stop
  queued : course.queued ++ tail.phase.inHand = exchanges.flatMap Exchange.items
  yielded : course.yielded ++ tail.queue = course.queued
  ending : tail.phase.IsEnding ↔ ∃ exchange ∈ exchanges, ¬ exchange.IsWellFormed
  /-- Only the last answer may be one that cannot be used. -/
  earlier : ∀ exchange ∈ exchanges.dropLast, exchange.IsWellFormed

theorem accounts_opened (target : String) (first : Instant) :
    Accounts [] (Tail.start target first) (opened target first) where
  live := ⟨none, rfl⟩
  isHeld := rfl
  isGoing := rfl
  queries := rfl
  windows := by simp [opened]
  queued := rfl
  yielded := rfl
  ending := by simp [Tail.start, TailPhase.IsEnding]
  earlier := by simp

section Steps

variable {answered : List Exchange} {tail : Tail} {course : Course}

/-- The poller may turn to what leaves nothing undone and promises nothing else. -/
theorem Accounts.turn (haccounts : Accounts answered tail course) {before : TailPhase}
    (phase : TailPhase) (hphase : tail.phase = before)
    (hunanswered : phase.unanswered = before.unanswered) (hinHand : phase.inHand = before.inHand)
    (hending : phase.IsEnding ↔ before.IsEnding) (clock : Option Instant) :
    Accounts answered { tail with phase }
      { course with reading := .live { tail with phase } clock } where
  live := ⟨clock, rfl⟩
  isHeld := haccounts.isHeld
  isGoing := haccounts.isGoing
  queries := by rw [haccounts.queries, hphase, hunanswered]
  windows := haccounts.windows
  queued := by rw [hinHand, ← hphase, haccounts.queued]
  yielded := haccounts.yielded
  ending := by rw [hending, ← hphase, haccounts.ending]
  earlier := haccounts.earlier

/-- What the poller has read from the clock is in no account. -/
theorem Accounts.same (haccounts : Accounts answered tail course) (clock : Option Instant) :
    Accounts answered tail { course with reading := .live tail clock } :=
  haccounts.turn tail.phase rfl rfl rfl Iff.rfl clock

theorem Accounts.isWellFormed (haccounts : Accounts answered tail course)
    (hgoing : ¬ tail.phase.IsEnding) : ∀ exchange ∈ answered, exchange.IsWellFormed := by
  intro exchange hmem
  by_contra hbad
  exact hgoing (haccounts.ending.2 ⟨exchange, hmem, hbad⟩)

/-- A query is started that is not for an empty window. -/
theorem Accounts.ask (haccounts : Accounts answered tail course) {query : Query}
    (hphase : tail.phase = .ready)
    (hwindow : ∀ start ∈ query.window.start, start < query.window.stop) (clock : Option Instant) :
    Accounts answered { tail with phase := .asking query }
      { course with
        reading := .live { tail with phase := .asking query } clock
        queries := course.queries ++ (some query).toList } where
  live := ⟨clock, rfl⟩
  isHeld := haccounts.isHeld
  isGoing := haccounts.isGoing
  queries := by
    rw [haccounts.queries, hphase, List.append_assoc]
    rfl
  windows := by
    intro asked hmem
    rcases List.mem_append.1 hmem with hmem | hmem
    · exact haccounts.windows asked hmem
    · rw [List.mem_singleton.1 hmem]
      exact hwindow
  queued := by
    rw [← haccounts.queued, hphase]
    rfl
  yielded := haccounts.yielded
  ending := by
    rw [← haccounts.ending, hphase]
    rfl
  earlier := haccounts.earlier

/-- A query is answered, and the poller takes in hand what comes of that. -/
theorem Accounts.answer (haccounts : Accounts answered tail course) (exchange : Exchange)
    (hphase : tail.phase = .asking exchange.query) (phase : TailPhase)
    (hunanswered : phase.unanswered = []) (hinHand : phase.inHand = exchange.items)
    (hending : phase.IsEnding ↔ ¬ exchange.IsWellFormed) (clock : Option Instant) :
    Accounts (answered ++ [exchange]) { tail with phase }
      { course with reading := .live { tail with phase } clock } := by
  have hgood : ∀ earlier ∈ answered, earlier.IsWellFormed := by
    apply haccounts.isWellFormed
    rw [hphase]
    exact id
  have hqueued : course.queued = answered.flatMap Exchange.items := by
    rw [← haccounts.queued, hphase]
    exact (List.append_nil _).symm
  constructor
  case live => exact ⟨clock, rfl⟩
  case isHeld => exact haccounts.isHeld
  case isGoing => exact haccounts.isGoing
  case queries =>
    rw [haccounts.queries, hphase, hunanswered, List.map_append, List.append_nil]
    rfl
  case windows => exact haccounts.windows
  case queued => rw [hinHand, hqueued, List.flatMap_append, List.flatMap_singleton]
  case yielded => exact haccounts.yielded
  case ending =>
    rw [hending]
    constructor
    · intro hbad
      exact ⟨exchange, List.mem_append_right _ (List.mem_singleton_self _), hbad⟩
    · rintro ⟨other, hmem, hbad⟩
      rcases List.mem_append.1 hmem with hmem | hmem
      · exact absurd (hgood other hmem) hbad
      · rwa [List.mem_singleton.1 hmem] at hbad
  case earlier => rwa [List.dropLast_concat]

/-- An item goes from the hand of the poller into the queue. -/
theorem Accounts.put (haccounts : Accounts answered tail course) {before : TailPhase}
    {cursor : Instant} (item : Item) (phase : TailPhase) (hphase : tail.phase = before)
    (hunanswered : phase.unanswered = before.unanswered)
    (hinHand : item :: phase.inHand = before.inHand) (hending : phase.IsEnding ↔ before.IsEnding)
    (clock : Option Instant) :
    Accounts answered { tail with phase, cursor, queue := tail.queue ++ [item] }
      { course with
        reading := .live { tail with phase, cursor, queue := tail.queue ++ [item] } clock
        queued := course.queued ++ [item] } where
  live := ⟨clock, rfl⟩
  isHeld := haccounts.isHeld
  isGoing := haccounts.isGoing
  queries := by rw [haccounts.queries, hphase, hunanswered]
  windows := haccounts.windows
  queued := by
    rw [← haccounts.queued, hphase, ← hinHand, List.append_assoc, List.singleton_append]
  yielded := by rw [← haccounts.yielded, List.append_assoc]
  ending := by rw [hending, ← hphase, haccounts.ending]
  earlier := haccounts.earlier

/-- An item goes from the queue to the reader. -/
theorem Accounts.get (haccounts : Accounts answered tail course) {item : Item} {rest : List Item}
    (hqueue : tail.queue = item :: rest) (clock : Option Instant) :
    Accounts answered { tail with queue := rest }
      { course with
        reading := .live { tail with queue := rest } clock
        yielded := course.yielded ++ [item] } where
  live := ⟨clock, rfl⟩
  isHeld := haccounts.isHeld
  isGoing := haccounts.isGoing
  queries := haccounts.queries
  windows := haccounts.windows
  queued := haccounts.queued
  yielded := by
    rw [← haccounts.yielded, hqueue, List.append_assoc, List.singleton_append]
  ending := haccounts.ending
  earlier := haccounts.earlier

section

variable {clock : Option Instant}

theorem Accounts.readClock (haccounts : Accounts answered tail course)
    (hlive : course.reading = .live tail clock) (now : Instant) :
    Accounts answered tail (course.step (.readClock now)) := by
  rw [step, hlive]
  cases clock with
  | some earlier => exact haccounts
  | none =>
    simp only
    split_ifs
    · exact haccounts.same (some now)
    · exact haccounts

theorem Accounts.startQuery (haccounts : Accounts answered tail course)
    (hlive : course.reading = .live tail clock) :
    Accounts answered (clock.elim tail tail.readClock) (course.step .startQuery) := by
  rw [step, hlive]
  cases clock with
  | none => exact haccounts
  | some now =>
    simp only [Option.elim_some]
    rcases Tail.readClock_cases haccounts.isGoing now with
      ⟨query, hphase, hquery, hwindow, hclock⟩ | ⟨hphase, hquery, hclock⟩ | ⟨hquery, hclock⟩ <;>
      rw [hquery, hclock]
    · exact haccounts.ask hphase hwindow none
    · rw [Option.toList_none, List.append_nil]
      exact haccounts.turn .sleeping hphase rfl rfl Iff.rfl none
    · rw [Option.toList_none, List.append_nil]
      exact haccounts.same none

theorem Accounts.receive (haccounts : Accounts answered tail course)
    (hlive : course.reading = .live tail clock) (answer : Except Fault (List Series)) :
    Accounts (answered ++ (course.exchange? (.receive answer)).toList) (tail.receive answer)
      (course.step (.receive answer)) := by
  rw [step, exchange?, hlive]
  simp only
  rcases Tail.receive_cases haccounts.isGoing answer with
    ⟨query, points, hphase, hselect, hreceive⟩ | ⟨query, fault, hphase, hselect, hreceive⟩ |
    ⟨hother, hreceive⟩ <;> rw [hreceive]
  · have hgood : (⟨query, answer⟩ : Exchange).IsWellFormed :=
      Exchange.isWellFormed_iff.2 ⟨points, hselect⟩
    have hitems : (⟨query, answer⟩ : Exchange).items = points.map Except.ok := by
      rw [Exchange.items, hselect, BoundedRead.itemsOf]
    rw [hphase]
    exact haccounts.answer ⟨query, answer⟩ hphase (.queuing points) rfl hitems.symm
      (iff_of_false id (not_not.2 hgood)) clock
  · have hbad : ¬ (⟨query, answer⟩ : Exchange).IsWellFormed := by
      simp [Exchange.isWellFormed_iff, hselect]
    have hitems : (⟨query, answer⟩ : Exchange).items = [.error fault] := by
      rw [Exchange.items, hselect, BoundedRead.itemsOf]
    rw [hphase]
    exact haccounts.answer ⟨query, answer⟩ hphase (.failing fault) rfl hitems.symm
      (iff_of_true trivial hbad) clock
  · rw [TailPhase.unanswered_eq_nil hother, List.head?_nil, Option.map_none, Option.toList_none,
      List.append_nil]
    exact haccounts.same clock

theorem Accounts.push (haccounts : Accounts answered tail course)
    (hlive : course.reading = .live tail clock) :
    Accounts answered tail.push (course.step .push) := by
  rw [step, hlive]
  simp only [Tail.added]
  rcases tail.push_cases with ⟨point, rest, hphase, hpush⟩ | ⟨fault, hphase, hpush⟩ |
    ⟨hphase, hpush⟩ | ⟨hcancelled, -⟩ | hpush
  · rw [hpush, List.drop_left]
    exact haccounts.put (.ok point) (.queuing rest) hphase rfl rfl Iff.rfl clock
  · rw [hpush, List.drop_left]
    exact haccounts.put (.error fault) .stopped hphase rfl rfl Iff.rfl clock
  · rw [hpush, List.drop_length, List.append_nil]
    exact haccounts.turn .sleeping hphase rfl rfl Iff.rfl clock
  · rw [haccounts.isGoing] at hcancelled
    cases hcancelled
  · rw [hpush, List.drop_length, List.append_nil]
    exact haccounts.same clock

theorem Accounts.wake (haccounts : Accounts answered tail course)
    (hlive : course.reading = .live tail clock) :
    Accounts answered tail.wake (course.step .wake) := by
  rw [step, hlive]
  simp only
  rcases Tail.wake_cases haccounts.isGoing with ⟨hphase, hwake⟩ | hwake <;> rw [hwake]
  · exact haccounts.turn .ready hphase rfl rfl Iff.rfl clock
  · exact haccounts.same clock

theorem Accounts.look (haccounts : Accounts answered tail course)
    (hlive : course.reading = .live tail clock) :
    Accounts answered tail.take.2 (course.step .look) := by
  rw [step, Course.look, if_pos haccounts.isHeld, hlive]
  simp only
  rcases Tail.take_cases haccounts.isGoing with ⟨item, rest, hqueue, htake⟩ |
    ⟨-, -, htake⟩ | ⟨-, -, htake⟩ <;> rw [htake]
  · exact haccounts.get hqueue clock
  · simpa [Taken.items] using haccounts.same clock
  · simpa [Taken.items] using haccounts.same clock

/-- Every step but a cancellation keeps the account, and adds the exchange that it completes. -/
theorem Accounts.step (haccounts : Accounts answered tail course)
    (hlive : course.reading = .live tail clock) {next : ReadStep}
    (hkept : ∀ ending, next ≠ .cancel ending) :
    Accounts (answered ++ (course.exchange? next).toList) (tail.after clock next)
      (course.step next) := by
  cases next with
  | receive answer => exact haccounts.receive hlive answer
  | cancel ending => exact absurd rfl (hkept ending)
  | readClock now => simpa [exchange?, Tail.after] using haccounts.readClock hlive now
  | startQuery => simpa [exchange?, Tail.after] using haccounts.startQuery hlive
  | push => simpa [exchange?, Tail.after] using haccounts.push hlive
  | wake => simpa [exchange?, Tail.after] using haccounts.wake hlive
  | look => simpa [exchange?, Tail.after] using haccounts.look hlive

end

/-- Without a cancellation the account holds of every run. -/
theorem Accounts.run (haccounts : Accounts answered tail course) {steps : List ReadStep}
    (hkept : ∀ ending, .cancel ending ∉ steps) :
    ∃ tail', Accounts (answered ++ course.exchanges steps) tail' (course.run steps) := by
  induction steps generalizing answered tail course with
  | nil =>
    rw [exchanges, List.append_nil]
    exact ⟨tail, haccounts⟩
  | cons next rest ih =>
    obtain ⟨clock, hlive⟩ := haccounts.live
    have hreached := haccounts.step hlive fun ending hnext =>
      hkept ending (hnext ▸ List.mem_cons_self)
    rw [exchanges, ← List.append_assoc]
    exact ih hreached fun ending hmem => hkept ending (List.mem_cons_of_mem _ hmem)

/-! ### The end of a tail -/

/-- What was got and what remains is what comes of all answers. -/
theorem Accounts.yielded_append_remaining (haccounts : Accounts answered tail course) :
    course.yielded ++ tail.remaining = answered.flatMap Exchange.items := by
  rw [← haccounts.queued, ← haccounts.yielded, Tail.remaining, List.append_assoc]

theorem Accounts.look_eq_finished (haccounts : Accounts answered tail course)
    (hending : tail.phase.IsEnding) (hremaining : tail.remaining = []) :
    course.look = (.finished, course) := by
  obtain ⟨clock, hlive⟩ := haccounts.live
  obtain ⟨hqueue, hinHand⟩ := List.append_eq_nil_iff.1 hremaining
  have hstopped : tail.phase = .stopped := by
    cases hphase : tail.phase <;> simp_all [TailPhase.IsEnding, TailPhase.inHand]
  rcases Tail.take_cases haccounts.isGoing with ⟨item, rest, hsome, -⟩ | ⟨-, -, htake⟩ |
    ⟨-, hrunning, -⟩
  · rw [hqueue] at hsome
    cases hsome
  · rw [Course.look, if_pos haccounts.isHeld, hlive]
    simp [htake, Taken.items, ← hlive]
  · exact absurd hstopped hrunning

theorem Accounts.remaining_eq_nil (haccounts : Accounts answered tail course)
    (hlook : course.look.1 = .finished) : tail.remaining = [] := by
  obtain ⟨clock, hlive⟩ := haccounts.live
  rw [Course.look, if_pos haccounts.isHeld, hlive] at hlook
  rcases Tail.take_cases haccounts.isGoing with ⟨item, rest, -, htake⟩ |
    ⟨hqueue, hstopped, -⟩ | ⟨-, -, htake⟩
  · simp [htake] at hlook
  · rw [Tail.remaining, hqueue, hstopped]
    rfl
  · simp [htake] at hlook

/-- Once an answer could not be used there is no query any more that could be answered. -/
theorem Accounts.exchange?_of_failed (haccounts : Accounts answered tail course)
    (hfailed : ∃ exchange ∈ answered, ¬ exchange.IsWellFormed) (next : ReadStep) :
    course.exchange? next = none := by
  obtain ⟨clock, hlive⟩ := haccounts.live
  have hunanswered := TailPhase.unanswered_of_isEnding (haccounts.ending.2 hfailed)
  cases next with
  | receive answer => simp [exchange?, hlive, hunanswered]
  | _ => rfl

/-- What an answer that could not be used leaves to be done becomes less in a run, or nothing has
changed and no side could do anything in its turn. -/
theorem Accounts.run_of_failed (haccounts : Accounts answered tail course)
    (hfailed : ∃ exchange ∈ answered, ¬ exchange.IsWellFormed) {steps : List ReadStep}
    (hkept : ∀ ending, .cancel ending ∉ steps) :
    ∃ tail', Accounts answered tail' (course.run steps) ∧
      (tail'.undone < tail.undone ∨ tail' = tail ∧ (.look ∈ steps → tail.queue = []) ∧
        (.push ∈ steps → tail.queue = [] → tail.phase.inHand = [])) := by
  induction steps generalizing tail course with
  | nil => exact ⟨tail, haccounts, Or.inr ⟨rfl, nofun, nofun⟩⟩
  | cons next rest ih =>
    obtain ⟨clock, hlive⟩ := haccounts.live
    have hfirst : ∀ ending, next ≠ .cancel ending := fun ending hnext =>
      hkept ending (hnext ▸ List.mem_cons_self)
    have hreached := haccounts.step hlive hfirst
    rw [haccounts.exchange?_of_failed hfailed, Option.toList_none, List.append_nil] at hreached
    obtain ⟨tail', hend, hrest⟩ :=
      ih hreached fun ending hmem => hkept ending (List.mem_cons_of_mem _ hmem)
    refine ⟨tail', hend, ?_⟩
    rcases Tail.after_of_isEnding haccounts.isGoing (haccounts.ending.2 hfailed) clock hfirst with
      hless | ⟨hsame, hlook, hpush⟩
    · rcases hrest with hmore | ⟨rfl, -⟩
      · exact Or.inl (hmore.trans hless)
      · exact Or.inl hless
    · rw [hsame] at hrest
      rcases hrest with hless | ⟨hkeeps, hlooks, hpushes⟩
      · exact Or.inl hless
      · refine Or.inr ⟨hkeeps, ?_, ?_⟩
        · intro hmem
          rcases List.mem_cons.1 hmem with hnext | hmem
          · exact hlook hnext.symm
          · exact hlooks hmem
        · intro hmem
          rcases List.mem_cons.1 hmem with hnext | hmem
          · exact hpush hnext.symm
          · exact hpushes hmem

/-- Rounds in each of which both sides have their turn bring the reader to the end. -/
theorem Accounts.rounds_of_failed (haccounts : Accounts answered tail course)
    (hfailed : ∃ exchange ∈ answered, ¬ exchange.IsWellFormed) {rounds : List (List ReadStep)}
    (hkept : ∀ ending, .cancel ending ∉ rounds.flatten)
    (hturns : ∀ round ∈ rounds, .push ∈ round ∧ .look ∈ round) :
    ∃ tail', Accounts answered tail' (course.run rounds.flatten) ∧
      (tail'.undone + rounds.length ≤ tail.undone ∨ tail'.undone = 0) := by
  induction rounds generalizing tail course with
  | nil => exact ⟨tail, haccounts, Or.inl le_rfl⟩
  | cons round others ih =>
    obtain ⟨⟨hpush, hlook⟩, hothers⟩ := List.forall_mem_cons.1 hturns
    simp only [List.flatten_cons, List.mem_append, not_or] at hkept
    obtain ⟨reached, hreached, hround⟩ :=
      haccounts.run_of_failed hfailed fun ending => (hkept ending).1
    obtain ⟨tail', hend, hrest⟩ := ih hreached (fun ending => (hkept ending).2) hothers
    refine ⟨tail', by rwa [List.flatten_cons, Course.run, List.foldl_append], ?_⟩
    have hprogress : reached.undone < tail.undone ∨ reached.undone = 0 := by
      rcases hround with hless | ⟨hsame, hidle, hnothing⟩
      · exact Or.inl hless
      · have hqueue := hidle hlook
        right
        simp [Tail.undone, hsame, hqueue, hnothing hpush hqueue]
    rw [List.length_cons]
    omega

/-- The items of each answer are due for it. -/
theorem Accounts.due (haccounts : Accounts answered tail course) :
    ∀ exchange ∈ answered, Due exchange.query exchange.answer exchange.items [exchange.query] := by
  intro exchange hmem
  apply due_itemsOf_select
  apply haccounts.windows
  rw [haccounts.queries]
  exact List.mem_append_left _ (List.mem_map_of_mem hmem)

theorem Accounts.queries_of_isEnding (haccounts : Accounts answered tail course)
    (hending : tail.phase.IsEnding) : course.queries = answered.map Exchange.query := by
  rw [haccounts.queries, TailPhase.unanswered_of_isEnding hending, List.append_nil]

/-- Only the last answer may be one that cannot be used, so there is none behind such a one. -/
theorem Accounts.others_eq_nil {failing : Exchange} {others : List Exchange}
    (haccounts : Accounts (answered ++ failing :: others) tail course)
    (hfailing : ¬ failing.IsWellFormed) : others = [] := by
  by_contra hmore
  apply hfailing
  apply haccounts.earlier
  rw [List.dropLast_append_of_ne_nil (List.cons_ne_nil _ _), List.dropLast_cons_of_ne_nil hmore]
  exact List.mem_append_right _ List.mem_cons_self

end Steps

/-- Each side of a tail, the poller and the reader, has so many turns at least. -/
def TakeTurns (count : Nat) (steps : List ReadStep) : Prop :=
  ∃ rounds : List (List ReadStep), steps = rounds.flatten ∧ count ≤ rounds.length ∧
    ∀ round ∈ rounds, .push ∈ round ∧ .look ∈ round

/-- A tail that is not cancelled, some of whose answers were well-formed and the next of which was
not: from then on no query is started. The reader gets the points that were due for the earlier
answers and then the one fault, finds the end only behind that, and finds it as soon as both sides
have had their turns. -/
theorem failure_isFatal (target : String) (first : Instant) (steps : List ReadStep)
    (answered others : List Exchange) (failing : Exchange)
    (hkept : ∀ ending, .cancel ending ∉ steps)
    (hexchanges : (opened target first).exchanges steps = answered ++ failing :: others)
    (hanswered : ∀ exchange ∈ answered, exchange.IsWellFormed)
    (hfailing : ¬ failing.IsWellFormed) :
    ∃ fault,
      (∀ exchange ∈ answered,
        Due exchange.query exchange.answer (exchange.points.map .ok) [exchange.query]) ∧
      Due failing.query failing.answer [.error fault] [failing.query] ∧
      ∀ more, (∀ ending, .cancel ending ∉ more) →
        let items : List Item := (answered.flatMap Exchange.points).map .ok ++ [.error fault]
        let course := (opened target first).run (steps ++ more)
        course.queries = (answered ++ [failing]).map Exchange.query ∧
        course.yielded <+: items ∧
        (course.look.1 = .finished → course.yielded = items) ∧
        (TakeTurns (items.length + 1) more →
          course.yielded = items ∧ course.look = (.finished, course)) := by
  obtain ⟨tail, haccounts⟩ := (accounts_opened target first).run hkept
  rw [List.nil_append, hexchanges] at haccounts
  cases haccounts.others_eq_nil hfailing
  have hfailed : ∃ exchange ∈ answered ++ [failing], ¬ exchange.IsWellFormed :=
    ⟨failing, List.mem_append_right _ (List.mem_singleton_self _), hfailing⟩
  obtain ⟨fault, hfault⟩ := Exchange.items_of_not_isWellFormed hfailing
  have hitems : (answered ++ [failing]).flatMap Exchange.items =
      (answered.flatMap Exchange.points).map .ok ++ [.error fault] := by
    rw [List.flatMap_append, List.flatMap_singleton, hfault, List.map_flatMap]
    congr 1
    exact List.flatMap_congr fun exchange hmem =>
      Exchange.items_of_isWellFormed (hanswered exchange hmem)
  refine ⟨fault, ?_, ?_, ?_⟩
  · intro exchange hmem
    rw [← Exchange.items_of_isWellFormed (hanswered exchange hmem)]
    exact haccounts.due exchange (List.mem_append_left _ hmem)
  · rw [← hfault]
    exact haccounts.due failing (List.mem_append_right _ (List.mem_singleton_self _))
  · intro more hmore items course
    have hcourse : course = ((opened target first).run steps).run more := List.foldl_append
    obtain ⟨reached, hreached, -⟩ := haccounts.run_of_failed hfailed hmore
    rw [← hcourse] at hreached
    have hdue : course.yielded ++ reached.remaining = items :=
      hreached.yielded_append_remaining.trans hitems
    refine ⟨hreached.queries_of_isEnding (hreached.ending.2 hfailed), ⟨_, hdue⟩, ?_, ?_⟩
    · intro hlook
      rw [← hdue, hreached.remaining_eq_nil hlook, List.append_nil]
    · rintro ⟨rounds, rfl, hcount, hturns⟩
      obtain ⟨last, hlast, hrounds⟩ := haccounts.rounds_of_failed hfailed hmore hturns
      rw [← hcourse] at hlast
      have hbound : tail.undone ≤ items.length + 1 := by
        have hlength : (_ ++ tail.remaining).length = items.length :=
          congrArg List.length (haccounts.yielded_append_remaining.trans hitems)
        rw [List.length_append] at hlength
        have hundone := Tail.undone_le_of_isEnding (haccounts.ending.2 hfailed)
        omega
      have hnothing : last.remaining = [] := by
        apply Tail.remaining_eq_nil_of_undone
        omega
      refine ⟨?_, hlast.look_eq_finished (hlast.ending.2 hfailed) hnothing⟩
      have hall := hlast.yielded_append_remaining.trans hitems
      rwa [hnothing, List.append_nil] at hall

/-- The first minute and a half of a series, with one sample. -/
def firstAnswered : Exchange where
  query := ⟨"m.a", ⟨some .epoch, ⟨90, 0, by decide, by decide⟩⟩⟩
  answer := .ok [⟨"m.a", [(some (Binary64.ofInt 1), Binary64.ofInt 60)]⟩]

/-- The minute after the first sample, with a sample at no time. -/
def thenMalformed : Exchange where
  query := ⟨"m.a", ⟨some ⟨60, 0, by decide, by decide⟩, ⟨120, 0, by decide, by decide⟩⟩⟩
  answer := .ok [⟨"m.a", [(some (Binary64.ofInt 2), .nan)]⟩]

/-- A tail with these two answers. -/
def untilMalformed : List ReadStep :=
  [.readClock firstAnswered.query.window.stop, .startQuery, .receive firstAnswered.answer, .push,
    .push, .wake, .readClock thenMalformed.query.window.stop, .startQuery,
    .receive thenMalformed.answer]

theorem malformed_isFatal :
    (opened "m.a" .epoch).exchanges untilMalformed = [firstAnswered, thenMalformed] ∧
      ∃ fault,
        let course := (opened "m.a" .epoch).run
          (untilMalformed ++ (List.replicate 3 [.push, .look]).flatten)
        course.queries = [firstAnswered.query, thenMalformed.query] ∧
          course.yielded = firstAnswered.points.map .ok ++ [.error fault] ∧
          course.look = (.finished, course) := by
  have hexchanges : (opened "m.a" .epoch).exchanges untilMalformed =
      [firstAnswered] ++ thenMalformed :: [] := by
    decide +kernel
  have hgood : ∀ exchange ∈ [firstAnswered], exchange.IsWellFormed := by
    intro exchange hmem
    rw [List.mem_singleton.1 hmem]
    refine ⟨_, rfl, ?_⟩
    intro datum hdatum
    rw [List.mem_singleton.1 hdatum]
    exact ⟨60, by decide +kernel⟩
  have hbad : ¬ thenMalformed.IsWellFormed := by
    rintro ⟨_, ⟨⟩, husable⟩
    obtain ⟨second, hwhole, -⟩ := husable ⟨"m.a", Binary64.ofInt 2, .nan⟩ List.mem_cons_self
    cases hwhole
  have hlength : firstAnswered.points.length = 1 := by decide +kernel
  obtain ⟨fault, -, -, hmore⟩ := failure_isFatal "m.a" .epoch untilMalformed [firstAnswered] []
    thenMalformed (by simp [untilMalformed]) hexchanges hgood hbad
  obtain ⟨hqueries, -, -, hend⟩ := hmore (List.replicate 3 [.push, .look]).flatten (by simp)
  obtain ⟨hyielded, hlook⟩ := hend ⟨_, rfl, by simp [hlength], by simp⟩
  refine ⟨hexchanges, fault, hqueries, ?_, hlook⟩
  rwa [List.flatMap_singleton] at hyielded

end Course

end MetricBridge
