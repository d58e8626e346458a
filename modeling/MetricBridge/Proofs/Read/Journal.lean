/-
# The journal of a tail

A journal is kept beside a tail and is never read by it. It notes every poll that was begun,
with what the clock showed, where the cursor stood, which window the store was asked for
and which points have come of it into the queue; and it notes what the reader has taken.

The two sides of a tail, the clock, the store and whoever cancels take their steps in any
order here, and the clock and the store say whatever they like. What a journal says of its
tail at all times is one predicate, `Journal.Sound`. Each kind of step keeps it, so
every run does.
-/

import Mathlib
import MetricBridge.Proofs.Point.Order
import MetricBridge.Proofs.Window.Interval
import MetricBridge.Read.Tail

namespace MetricBridge

open Time (Instant)

/-- What is selected from an answer is in order and lies in the window. -/
theorem Query.of_select_eq_ok {query : Query} {answer : Except Fault (List Series)}
    {points : List Point} (hselect : query.select answer = .ok points) :
    points.Pairwise (fun a b => a.precedes b = true) ∧
      ∀ point ∈ points, query.window.contains point.time = true := by
  cases answer with
  | error fault => cases hselect
  | ok series =>
    cases hcollect : Series.collect series with
    | error fault =>
      simp [select, bind, Except.bind, Series.points, hcollect, Except.map] at hselect
    | ok found =>
      have hpoints : points = (found.mergeSort Point.precedes).filter fun point =>
          query.window.contains point.time := by
        simpa [select, bind, Except.bind, Series.points, hcollect, Except.map] using hselect.symm
      rw [hpoints]
      refine ⟨(Point.pairwise_mergeSort_precedes found).sublist List.filter_sublist, ?_⟩
      intro point hmem
      exact (List.mem_filter.1 hmem).2

namespace Tail

/-- The window that the store is being asked for. -/
def asked? (tail : Tail) : Option Interval :=
  match tail.phase with
  | .asking query => some query.window
  | _ => none

/-- What the next push adds to the queue. -/
def added (tail : Tail) : List Item :=
  tail.push.queue.drop tail.queue.length

/-- A push puts a point or a fault into the queue, or only lets the poller rest, or does
nothing. -/
theorem push_cases (tail : Tail) :
    (∃ point rest, tail.phase = .queuing (point :: rest) ∧
      tail.push = { tail with
        phase := .queuing rest
        queue := tail.queue ++ [.ok point]
        cursor := max tail.cursor point.time }) ∨
    (∃ fault, tail.phase = .failing fault ∧
      tail.push = { tail with phase := .stopped, queue := tail.queue ++ [.error fault] }) ∨
    (tail.phase = .queuing [] ∧ tail.push = { tail with phase := .sleeping }) ∨
    (tail.isCancelled = true ∧ tail.push = { tail with phase := .stopped }) ∨
    tail.push = tail := by
  unfold push
  split
  next hphase => exact Or.inr (Or.inr (Or.inl ⟨hphase, rfl⟩))
  next point rest hphase =>
    split_ifs with hcancelled hroom
    · exact Or.inr (Or.inr (Or.inr (Or.inl ⟨hcancelled, rfl⟩)))
    · exact Or.inl ⟨point, rest, hphase, rfl⟩
    · exact Or.inr (Or.inr (Or.inr (Or.inr rfl)))
  next fault hphase =>
    split_ifs with hcancelled hroom
    · exact Or.inr (Or.inr (Or.inr (Or.inl ⟨hcancelled, rfl⟩)))
    · exact Or.inr (Or.inl ⟨fault, hphase, rfl⟩)
    · exact Or.inr (Or.inr (Or.inr (Or.inr rfl)))
  next => exact Or.inr (Or.inr (Or.inr (Or.inr rfl)))

end Tail

/-! ### Keeping a journal -/

/-- A poll as it is noted. -/
structure Poll where
  /-- What the clock showed, cut to the second. -/
  now : Instant
  /-- Where the cursor stood. -/
  floor : Instant
  /-- The window that the store was asked for; none if it was not asked. -/
  window : Option Interval
  /-- What has come of the poll into the queue so far. -/
  points : List Point

namespace Poll

/-- The window from the cursor to the present second. -/
def span (poll : Poll) : Interval :=
  ⟨some poll.floor, poll.now⟩

/-- A poll asked for a window that was not empty, if it asked at all. Its points are in order
and come after its cursor, which was not below the start, and no later than its clock. -/
structure Sound (start : Instant) (poll : Poll) : Prop where
  started : start ≤ poll.floor
  asked : ∀ window ∈ poll.window, window = poll.span ∧ window.isEmpty = false
  inSpan : ∀ point ∈ poll.points, poll.span.contains point.time = true
  ordered : poll.points.Pairwise fun a b => a.precedes b = true

end Poll

/-- A tail with what is noted about it. -/
structure Journal where
  tail : Tail
  /-- The polls that were begun, the latest first. -/
  polls : List Poll
  /-- What the reader has taken, in this order. -/
  taken : List Item

/-- A step of the poller, the store, the reader or of whoever cancels. -/
inductive TailStep where
  | readClock (clock : Instant)
  | receive (answer : Except Fault (List Series))
  | push
  | wake
  | take
  | cancel

namespace Journal

/-- The journal of a tail that was just started. -/
def start (target : String) (cursor : Instant) : Journal :=
  ⟨Tail.start target cursor, [], []⟩

/-- The points that have come into the queue, taken since or not. -/
def delivered (journal : Journal) : List Point :=
  journal.polls.reverse.flatMap Poll.points

/-- The points of the latest answer that are not in the queue yet. -/
def pending (journal : Journal) : List Point :=
  match journal.tail.phase with
  | .queuing rest => rest
  | _ => []

/-- The polls once a clock has been read; one is begun if the poller is about to. -/
def pollsAt (journal : Journal) (clock : Instant) : List Poll :=
  if journal.tail.phase = .ready ∧ journal.tail.isCancelled = false then
    ⟨clock.truncate, journal.tail.cursor, (journal.tail.readClock clock).asked?, []⟩ ::
      journal.polls
  else journal.polls

/-- The polls with some more points for the latest of them. -/
def note (points : List Point) : List Poll → List Poll
  | [] => []
  | poll :: earlier => { poll with points := poll.points ++ points } :: earlier

/-- The journal after a step. -/
def step (journal : Journal) : TailStep → Journal
  | .readClock clock =>
    ⟨journal.tail.readClock clock, journal.pollsAt clock, journal.taken⟩
  | .receive answer => { journal with tail := journal.tail.receive answer }
  | .push =>
    ⟨journal.tail.push, note (journal.tail.added.filterMap Except.toOption) journal.polls,
      journal.taken⟩
  | .wake => { journal with tail := journal.tail.wake }
  | .take =>
    match journal.tail.take with
    | (.item item, tail) => ⟨tail, journal.polls, journal.taken ++ [item]⟩
    | (_, tail) => { journal with tail }
  | .cancel => { journal with tail := journal.tail.cancel }

/-- The journal after some steps. -/
def run (journal : Journal) (steps : List TailStep) : Journal :=
  steps.foldl step journal

theorem tail_run_push (journal : Journal) (count : Nat) :
    (journal.run (List.replicate count .push)).tail = Nat.repeat Tail.push count journal.tail := by
  induction count with
  | zero => rfl
  | succ count ih =>
    rw [List.replicate_succ', run, List.foldl_append, ← run, Nat.repeat, ← ih]
    rfl

/-- A whole poll, as far as the queue allows, is a run of these steps. -/
theorem exists_run_tail_eq_poll {σ : Type} (source : Source σ) (clock : Instant)
    (journal : Journal) (state : σ) :
    ∃ steps, (journal.run steps).tail = (journal.tail.poll source clock state).1 := by
  rw [Tail.poll]
  split
  next query hasking =>
    set answered := (journal.step (.readClock clock)).step (.receive (source query state).1)
    refine ⟨.readClock clock :: .receive (source query state).1 ::
      List.replicate answered.tail.unqueued .push, ?_⟩
    exact answered.tail_run_push _
  next => exact ⟨[.readClock clock], rfl⟩

theorem delivered_of_polls_eq_cons {journal : Journal} {poll : Poll} {earlier : List Poll}
    (hpolls : journal.polls = poll :: earlier) :
    journal.delivered = earlier.reverse.flatMap Poll.points ++ poll.points := by
  rw [delivered, hpolls, List.reverse_cons, List.flatMap_append, List.flatMap_singleton]

theorem mem_delivered_iff {journal : Journal} {point : Point} :
    point ∈ journal.delivered ↔ ∃ poll ∈ journal.polls, point ∈ poll.points := by
  simp [delivered]

@[simp]
theorem note_nil (polls : List Poll) : note [] polls = polls := by
  cases polls <;> simp [note]

/-! ### What a journal says at all times -/

/-- The instants of what was delivered, and the instant at which the tail was started. -/
def reached (journal : Journal) (start : Instant) : Set Instant :=
  insert start {time | ∃ point ∈ journal.delivered, point.time = time}

/-- What the poller is doing is what the latest poll has come to. -/
def Underway (polls : List Poll) : TailPhase → Prop
  | .asking query =>
    ∃ poll earlier, polls = poll :: earlier ∧ query.window = poll.span ∧ poll.points = []
  | .queuing rest =>
    ∃ poll earlier, polls = poll :: earlier ∧
      (poll.points ++ rest).Pairwise (fun a b => a.precedes b = true) ∧
      ∀ point ∈ rest, poll.span.contains point.time = true
  | _ => True

/-- The cursor is the latest instant reached. Every poll was begun at or above everything that
came before it. -/
structure Sound (start : Instant) (journal : Journal) : Prop where
  polls : ∀ poll ∈ journal.polls, poll.Sound start
  raised : journal.polls.Pairwise fun later earlier =>
    earlier.floor ≤ later.floor ∧ ∀ point ∈ earlier.points, point.time ≤ later.floor
  below : ∀ poll ∈ journal.polls, poll.floor ≤ journal.tail.cursor
  cursor : IsGreatest (journal.reached start) journal.tail.cursor
  underway : Underway journal.polls journal.tail.phase
  /-- Nothing but faults comes after the points, and only once the poller has stopped. -/
  items : ∃ faults : List Fault,
    journal.taken ++ journal.tail.queue =
      journal.delivered.map Except.ok ++ faults.map Except.error ∧
    (journal.tail.phase = .stopped ∨ faults = [])

theorem sound_start (target : String) (cursor : Instant) : (start target cursor).Sound cursor where
  polls := by simp [start]
  raised := List.Pairwise.nil
  below := by simp [start]
  cursor := by simp [start, reached, delivered, Tail.start]
  underway := trivial
  items := ⟨[], rfl, Or.inr rfl⟩

section Steps

variable {first : Instant} {journal : Journal}

/-- The poller may turn to anything that fits its latest poll, unless it has stopped. -/
theorem Sound.turn (hsound : journal.Sound first) {phase : TailPhase}
    (hunderway : Underway journal.polls phase)
    (hstopped : phase = .stopped ∨ journal.tail.phase ≠ .stopped) :
    Sound first { journal with tail := { journal.tail with phase } } := by
  obtain ⟨faults, hitems, hfaults⟩ := hsound.items
  refine { hsound with underway := hunderway, items := ⟨faults, hitems, ?_⟩ }
  rcases hstopped with hstopped | hgoing
  · exact Or.inl hstopped
  · exact Or.inr (hfaults.resolve_left hgoing)

/-- A poll that begins at the cursor can be noted. -/
theorem Sound.begin (hsound : journal.Sound first) (hgoing : journal.tail.phase ≠ .stopped)
    {poll : Poll} {phase : TailPhase} (hfloor : poll.floor = journal.tail.cursor)
    (hpoints : poll.points = [])
    (hasked : ∀ window ∈ poll.window, window = poll.span ∧ window.isEmpty = false)
    (hunderway : Underway (poll :: journal.polls) phase) :
    Sound first ⟨{ journal.tail with phase }, poll :: journal.polls, journal.taken⟩ := by
  have hdelivered : ∀ tail, delivered ⟨tail, poll :: journal.polls, journal.taken⟩ =
      journal.delivered := by
    intro tail
    rw [delivered_of_polls_eq_cons rfl, hpoints, List.append_nil, delivered]
  have hfirst : first ≤ journal.tail.cursor := hsound.cursor.2 (Set.mem_insert _ _)
  have hnew : poll.Sound first :=
    ⟨hfloor ▸ hfirst, hasked, by simp [hpoints], by simp [hpoints]⟩
  obtain ⟨faults, hitems, hfaults⟩ := hsound.items
  constructor
  case polls => exact List.forall_mem_cons.2 ⟨hnew, hsound.polls⟩
  case raised =>
    refine List.pairwise_cons.2 ⟨fun earlier hmem => ⟨?_, ?_⟩, hsound.raised⟩
    · rw [hfloor]
      exact hsound.below earlier hmem
    · intro point hpoint
      have hreached : point ∈ journal.delivered := mem_delivered_iff.2 ⟨earlier, hmem, hpoint⟩
      rw [hfloor]
      exact hsound.cursor.2 (Set.mem_insert_of_mem _ ⟨point, hreached, rfl⟩)
  case below => exact List.forall_mem_cons.2 ⟨le_of_eq hfloor, hsound.below⟩
  case cursor =>
    rw [reached, hdelivered]
    exact hsound.cursor
  case underway => exact hunderway
  case items =>
    rw [hdelivered]
    exact ⟨faults, hitems, Or.inr (hfaults.resolve_left hgoing)⟩

/-- The first of the points that are left can be put into the queue. -/
theorem Sound.queue (hsound : journal.Sound first) {point : Point} {rest : List Point}
    (hphase : journal.tail.phase = .queuing (point :: rest)) :
    Sound first ⟨{ journal.tail with
        phase := .queuing rest
        queue := journal.tail.queue ++ [.ok point]
        cursor := max journal.tail.cursor point.time },
      note [point] journal.polls, journal.taken⟩ := by
  obtain ⟨poll, earlier, hpolls, hsorted, hspan⟩ : Underway journal.polls (.queuing _) :=
    hphase ▸ hsound.underway
  obtain ⟨hpoint, hrest⟩ := List.forall_mem_cons.1 hspan
  have hdelivered : ∀ tail, delivered ⟨tail, note [point] journal.polls, journal.taken⟩ =
      journal.delivered ++ [point] := by
    intro tail
    rw [delivered_of_polls_eq_cons hpolls, hpolls, note, delivered_of_polls_eq_cons rfl,
      List.append_assoc]
  have hpollsound := hsound.polls
  have hraised := hsound.raised
  have hbelow := hsound.below
  rw [hpolls] at hpollsound hraised hbelow
  obtain ⟨hlatest, hearlier⟩ := List.forall_mem_cons.1 hpollsound
  have hsorted : ((poll.points ++ [point]) ++ rest).Pairwise fun a b => a.precedes b = true := by
    rwa [List.append_assoc, List.singleton_append]
  have hmore : { poll with points := poll.points ++ [point] }.Sound first := by
    refine ⟨hlatest.started, hlatest.asked, ?_, (List.pairwise_append.1 hsorted).1⟩
    intro other hmem
    rcases List.mem_append.1 hmem with hmem | hmem
    · exact hlatest.inSpan other hmem
    · rw [List.mem_singleton.1 hmem]
      exact hpoint
  obtain ⟨faults, hitems, hfaults⟩ := hsound.items
  obtain rfl : faults = [] := hfaults.resolve_left (by simp [hphase])
  constructor
  case polls =>
    rw [hpolls]
    exact List.forall_mem_cons.2 ⟨hmore, hearlier⟩
  case raised =>
    rw [hpolls]
    exact List.pairwise_cons.2 (List.pairwise_cons.1 hraised)
  case below =>
    intro other hmem
    have hfloor : other.floor ≤ journal.tail.cursor := by
      rw [hpolls] at hmem
      rcases List.mem_cons.1 hmem with rfl | hmem
      · exact hbelow poll List.mem_cons_self
      · exact hbelow other (List.mem_cons_of_mem _ hmem)
    exact le_trans hfloor (le_max_left _ _)
  case cursor =>
    have hreached : ∀ tail, reached ⟨tail, note [point] journal.polls, journal.taken⟩ first =
        insert point.time (journal.reached first) := by
      intro tail
      ext time
      simp only [reached, hdelivered, List.mem_append, List.mem_singleton, Set.mem_insert_iff,
        Set.mem_ofPred_eq]
      grind
    rw [hreached, max_comm]
    exact hsound.cursor.insert _
  case underway =>
    rw [hpolls]
    exact ⟨_, _, rfl, hsorted, hrest⟩
  case items =>
    refine ⟨[], ?_, Or.inr rfl⟩
    rw [hdelivered, List.map_append, ← List.append_assoc, hitems]
    simp

/-- A fault can be put into the queue, and is the last thing there. -/
theorem Sound.fail (hsound : journal.Sound first) {fault : Fault}
    (hphase : journal.tail.phase = .failing fault) :
    Sound first { journal with
      tail := { journal.tail with
        phase := .stopped
        queue := journal.tail.queue ++ [.error fault] } } := by
  obtain ⟨faults, hitems, hfaults⟩ := hsound.items
  obtain rfl : faults = [] := hfaults.resolve_left (by simp [hphase])
  refine { hsound with underway := trivial, items := ⟨[fault], ?_, Or.inl rfl⟩ }
  rw [← List.append_assoc, hitems]
  simp [delivered]

/-- A clock that has not moved on from the cursor makes a poll without a question. -/
theorem step_readClock_of_le {clock : Instant} (hphase : journal.tail.phase = .ready)
    (hcancelled : journal.tail.isCancelled = false) (hle : clock.truncate ≤ journal.tail.cursor) :
    journal.step (.readClock clock) =
      ⟨{ journal.tail with phase := .sleeping },
        ⟨clock.truncate, journal.tail.cursor, none, []⟩ :: journal.polls, journal.taken⟩ := by
  have hread : journal.tail.readClock clock = { journal.tail with phase := .sleeping } := by
    simp [Tail.readClock, hphase, hcancelled, hle]
  rw [step, pollsAt, if_pos ⟨hphase, hcancelled⟩, hread, Tail.asked?]

/-- A clock that has moved on makes a poll that asks for all up to the present second. -/
theorem step_readClock_of_lt {clock : Instant} (hphase : journal.tail.phase = .ready)
    (hcancelled : journal.tail.isCancelled = false) (hlt : journal.tail.cursor < clock.truncate) :
    journal.step (.readClock clock) =
      ⟨{ journal.tail with phase := .asking (journal.tail.queryUntil clock.truncate) },
        ⟨clock.truncate, journal.tail.cursor,
          some (journal.tail.queryUntil clock.truncate).window, []⟩ :: journal.polls,
        journal.taken⟩ := by
  have hread : journal.tail.readClock clock =
      { journal.tail with phase := .asking (journal.tail.queryUntil clock.truncate) } := by
    simp [Tail.readClock, hphase, hcancelled, not_le.2 hlt]
  rw [step, pollsAt, if_pos ⟨hphase, hcancelled⟩, hread, Tail.asked?]

theorem Sound.readClock (hsound : journal.Sound first) (clock : Instant) :
    (journal.step (.readClock clock)).Sound first := by
  by_cases hready : journal.tail.phase = .ready ∧ journal.tail.isCancelled = false
  · obtain ⟨hphase, hcancelled⟩ := hready
    have hgoing : journal.tail.phase ≠ .stopped := by simp [hphase]
    rcases le_or_gt clock.truncate journal.tail.cursor with hle | hlt
    · rw [step_readClock_of_le hphase hcancelled hle]
      exact hsound.begin hgoing rfl rfl (by simp) trivial
    · rw [step_readClock_of_lt hphase hcancelled hlt]
      refine hsound.begin hgoing rfl rfl ?_ ⟨_, _, rfl, rfl, rfl⟩
      rintro window ⟨⟩
      exact ⟨rfl, by simp [Tail.queryUntil, Interval.isEmpty, not_le.2 hlt]⟩
  · have hpolls : journal.pollsAt clock = journal.polls := if_neg hready
    rw [step, hpolls, Tail.readClock]
    split
    next hphase =>
      rw [if_pos (by simpa [hphase] using hready)]
      exact hsound.turn trivial (Or.inl rfl)
    next => exact hsound

theorem Sound.receive (hsound : journal.Sound first) (answer : Except Fault (List Series)) :
    (journal.step (.receive answer)).Sound first := by
  rw [step, Tail.receive]
  split
  next query hphase =>
    have hgoing : journal.tail.phase ≠ .stopped := by simp [hphase]
    obtain ⟨poll, earlier, hpolls, hwindow, hempty⟩ : Underway journal.polls (.asking query) :=
      hphase ▸ hsound.underway
    split_ifs
    · exact hsound.turn trivial (Or.inl rfl)
    · cases hselect : query.select answer with
      | ok points =>
        obtain ⟨hsorted, hinside⟩ := Query.of_select_eq_ok hselect
        rw [hwindow] at hinside
        exact hsound.turn ⟨poll, earlier, hpolls, by rwa [hempty], hinside⟩ (Or.inr hgoing)
      | error fault => exact hsound.turn trivial (Or.inr hgoing)
  next => exact hsound

/-- What a push does is noted with the latest poll. -/
theorem step_push_cases (journal : Journal) :
    (∃ point rest, journal.tail.phase = .queuing (point :: rest) ∧
      journal.step .push = ⟨{ journal.tail with
          phase := .queuing rest
          queue := journal.tail.queue ++ [.ok point]
          cursor := max journal.tail.cursor point.time },
        note [point] journal.polls, journal.taken⟩) ∨
    (∃ fault, journal.tail.phase = .failing fault ∧
      journal.step .push = { journal with
        tail := { journal.tail with
          phase := .stopped
          queue := journal.tail.queue ++ [.error fault] } }) ∨
    (journal.tail.phase = .queuing [] ∧
      journal.step .push = { journal with tail := { journal.tail with phase := .sleeping } }) ∨
    (journal.tail.isCancelled = true ∧
      journal.step .push = { journal with tail := { journal.tail with phase := .stopped } }) ∨
    journal.step .push = journal := by
  rw [step, Tail.added]
  rcases journal.tail.push_cases with ⟨point, rest, hphase, hpush⟩ | ⟨fault, hphase, hpush⟩ |
    ⟨hphase, hpush⟩ | ⟨hcancelled, hpush⟩ | hpush <;> rw [hpush]
  · exact Or.inl ⟨point, rest, hphase, by simp [Except.toOption]⟩
  · exact Or.inr (Or.inl ⟨fault, hphase, by simp [List.filterMap_cons, Except.toOption]⟩)
  · exact Or.inr (Or.inr (Or.inl ⟨hphase, by simp⟩))
  · exact Or.inr (Or.inr (Or.inr (Or.inl ⟨hcancelled, by simp⟩)))
  · exact Or.inr (Or.inr (Or.inr (Or.inr (by simp))))

theorem Sound.push (hsound : journal.Sound first) : (journal.step .push).Sound first := by
  rcases journal.step_push_cases with ⟨point, rest, hphase, hpush⟩ | ⟨fault, hphase, hpush⟩ |
    ⟨hphase, hpush⟩ | ⟨-, hpush⟩ | hpush <;> rw [hpush]
  · exact hsound.queue hphase
  · exact hsound.fail hphase
  · exact hsound.turn trivial (Or.inr (by simp [hphase]))
  · exact hsound.turn trivial (Or.inl rfl)
  · exact hsound

theorem Sound.wake (hsound : journal.Sound first) : (journal.step .wake).Sound first := by
  rw [step, Tail.wake]
  split
  next hphase =>
    split_ifs
    · exact hsound.turn trivial (Or.inl rfl)
    · exact hsound.turn trivial (Or.inr (by simp [hphase]))
  next => exact hsound

/-- The reader takes the first item of the queue, or nothing. -/
theorem step_take_cases (journal : Journal) :
    (∃ item rest, journal.tail.queue = item :: rest ∧
      journal.step .take = ⟨{ journal.tail with queue := rest }, journal.polls,
        journal.taken ++ [item]⟩) ∨
    journal.step .take = journal := by
  rw [step, Tail.take]
  by_cases hcancelled : journal.tail.isCancelled = true
  · rw [if_pos hcancelled]
    exact Or.inr rfl
  · rw [if_neg hcancelled]
    cases hqueue : journal.tail.queue with
    | cons item rest => exact Or.inl ⟨item, rest, rfl, rfl⟩
    | nil =>
      right
      by_cases hstopped : journal.tail.phase = .stopped <;> simp [hstopped]

theorem Sound.take (hsound : journal.Sound first) : (journal.step .take).Sound first := by
  rcases journal.step_take_cases with ⟨item, rest, hqueue, htake⟩ | htake <;> rw [htake]
  · obtain ⟨faults, hitems, hfaults⟩ := hsound.items
    refine { hsound with items := ⟨faults, ?_, hfaults⟩ }
    rw [List.append_assoc, List.singleton_append, ← hqueue]
    exact hitems
  · exact hsound

/-- Each step keeps a journal sound. -/
theorem Sound.step (hsound : journal.Sound first) (step : TailStep) :
    (journal.step step).Sound first := by
  cases step with
  | readClock clock => exact hsound.readClock clock
  | receive answer => exact hsound.receive answer
  | push => exact hsound.push
  | wake => exact hsound.wake
  | take => exact hsound.take
  | cancel => exact { hsound with }

/-- Every run keeps a journal sound. -/
theorem Sound.run (hsound : journal.Sound first) (steps : List TailStep) :
    (journal.run steps).Sound first := by
  induction steps generalizing journal with
  | nil => exact hsound
  | cons step rest ih => exact ih (hsound.step step)

end Steps

end Journal

end MetricBridge
