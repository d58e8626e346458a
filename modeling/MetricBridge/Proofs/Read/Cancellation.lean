/-
# Cancelling is final

A read is cancelled through itself, through a token that was handed out, or, for a tail, by dropping
its stream. Whatever it was about to do at that moment, and in whichever order the clock, the
store, the poller and the reader go on, nothing comes of it: the reader finds no item any more,
not even one that lay in the queue, no query is started, and nothing is put into the queue.

The steps are finer here than those of a tail and of a bounded read. A cancellation may fall
between reading the clock and starting the query that it leads to, and between a query of a bounded
read and its answer. What is noted beside a read is what must not grow: the queries started, the
items put into the queue, and the items that the reader got.
-/

import Mathlib
import MetricBridge.Proofs.Read.Journal

namespace MetricBridge

open Time (Instant)

/-! ### Reads step by step -/

/-- How far a bounded read has come with its one query. -/
inductive Inquiry where
  | unsent
  | sent
  | answered (answer : Except Fault (List Series))

/-- A read that goes on, and what it has in hand. -/
inductive Reading where
  | bounded (read : BoundedRead) (inquiry : Inquiry)
  /-- A tail; `clock` is what its poller has read from the clock and not acted on yet. -/
  | live (tail : Tail) (clock : Option Instant)

/-- How a read is cancelled. -/
inductive Ending where
  | read
  | token
  /-- The stream is dropped. -/
  | drop
  deriving DecidableEq

/-- A step of the poller, the store, the reader or of whoever cancels. -/
inductive ReadStep where
  | readClock (clock : Instant)
  | startQuery
  | receive (answer : Except Fault (List Series))
  | push
  | wake
  | look
  | cancel (ending : Ending)

/-- A read with what is noted about it. -/
structure Course where
  reading : Reading
  /-- The stream has not been dropped. -/
  isHeld : Bool
  /-- The queries that were started. -/
  queries : List Query
  /-- What was put into the queue. -/
  queued : List Item
  /-- What the reader got. -/
  yielded : List Item

namespace BoundedRead

/-- The read has to wait for an answer before it can hand out anything. -/
def awaits (read : BoundedRead) : Bool :=
  match read.phase with
  | .unasked => !read.isCancelled && !read.query.window.isEmpty
  | .handing _ => false

/-- What a reader finds when the read goes by an answer, which counts only if it asks for one. -/
def lookWith (answer : Except Fault (List Series)) (read : BoundedRead) : Taken × BoundedRead :=
  let (item, read, _) := read.next (fun _ state => (answer, state)) ()
  (item.elim .finished .item, read)

/-- The reader looks for an item. The query is started if it has to be, and until it is answered
there is nothing to be found. -/
def look (read : BoundedRead) (inquiry : Inquiry) : Taken × BoundedRead × Inquiry :=
  if read.awaits then
    match inquiry with
    | .unsent | .sent => (.pending, read, .sent)
    | .answered answer =>
      let (found, read) := read.lookWith answer
      (found, read, inquiry)
  else
    let (found, read) := read.lookWith (.ok [])
    (found, read, inquiry)

/-- The query that is started when the reader looks for an item. -/
def query? (read : BoundedRead) : Inquiry → Option Query
  | .unsent => if read.awaits then some read.query else none
  | _ => none

end BoundedRead

namespace Tail

/-- The query that is started when the poller acts on what it has read from the clock. -/
def query? (clock : Instant) (tail : Tail) : Option Query :=
  match tail.phase, (tail.readClock clock).phase with
  | .ready, .asking query => some query
  | _, _ => none

end Tail

/-- What a reader got from a look. -/
def Taken.items : Taken → List Item
  | .item found => [found]
  | _ => []

namespace Reading

/-- The read has no end. -/
def isLive : Reading → Bool
  | bounded _ _ => false
  | live _ _ => true

/-- The token of the read is cancelled. -/
def isCancelled : Reading → Bool
  | bounded read _ => read.isCancelled
  | live tail _ => tail.isCancelled

def cancel : Reading → Reading
  | bounded read inquiry => bounded read.cancel inquiry
  | live tail clock => live tail.cancel clock

/-- The stream of a tail cancels it when it is dropped. -/
def dropped : Reading → Reading
  | bounded read inquiry => bounded read inquiry
  | live tail clock => live tail.cancel clock

end Reading

namespace Course

/-- The reader looks for an item; after the stream was dropped there is nobody to look. -/
def look (course : Course) : Taken × Course :=
  if course.isHeld then
    match course.reading with
    | .bounded read inquiry =>
      let (found, next, inquiry') := read.look inquiry
      (found, { course with
        reading := .bounded next inquiry'
        queries := course.queries ++ (read.query? inquiry).toList
        yielded := course.yielded ++ found.items })
    | .live tail clock =>
      let (found, next) := tail.take
      (found, { course with
        reading := .live next clock
        yielded := course.yielded ++ found.items })
  else (.finished, course)

/-- The course after a step. A step that does not fit what is going on changes nothing. -/
def step (course : Course) : ReadStep → Course
  | .readClock clock =>
    match course.reading with
    | .live tail none =>
      if tail.phase = .ready then { course with reading := .live tail (some clock) } else course
    | _ => course
  | .startQuery =>
    match course.reading with
    | .live tail (some clock) =>
      { course with
        reading := .live (tail.readClock clock) none
        queries := course.queries ++ (tail.query? clock).toList }
    | _ => course
  | .receive answer =>
    match course.reading with
    | .bounded read .sent => { course with reading := .bounded read (.answered answer) }
    | .live tail clock => { course with reading := .live (tail.receive answer) clock }
    | _ => course
  | .push =>
    match course.reading with
    | .live tail clock =>
      { course with reading := .live tail.push clock, queued := course.queued ++ tail.added }
    | _ => course
  | .wake =>
    match course.reading with
    | .live tail clock => { course with reading := .live tail.wake clock }
    | _ => course
  | .look => course.look.2
  | .cancel .drop => { course with reading := course.reading.dropped, isHeld := false }
  | .cancel _ => { course with reading := course.reading.cancel }

/-- The course after some steps. -/
def run (course : Course) (steps : List ReadStep) : Course :=
  steps.foldl step course

/-- Nothing more can come of the read: its token is cancelled, or it is bounded and its stream was
dropped. -/
def IsOver (course : Course) : Prop :=
  course.reading.isCancelled = true ∨ course.reading.isLive = false ∧ course.isHeld = false

/-- No query was started, nothing was put into the queue, and the reader got nothing. -/
structure SameNotes (before after : Course) : Prop where
  queries : after.queries = before.queries
  queued : after.queued = before.queued
  yielded : after.yielded = before.yielded

end Course

/-! ### A tail that is cancelled -/

namespace Tail

variable {tail : Tail}

@[simp]
theorem isCancelled_readClock (tail : Tail) (clock : Instant) :
    (tail.readClock clock).isCancelled = tail.isCancelled := by
  unfold readClock
  split
  · split_ifs <;> rfl
  · rfl

@[simp]
theorem isCancelled_receive (tail : Tail) (answer : Except Fault (List Series)) :
    (tail.receive answer).isCancelled = tail.isCancelled := by
  unfold receive
  split
  · split_ifs
    · rfl
    · split <;> rfl
  · rfl

@[simp]
theorem isCancelled_push (tail : Tail) : tail.push.isCancelled = tail.isCancelled := by
  rcases tail.push_cases with ⟨_, _, _, hpush⟩ | ⟨_, _, hpush⟩ | ⟨_, hpush⟩ | ⟨_, hpush⟩ | hpush <;>
    rw [hpush]

@[simp]
theorem isCancelled_wake (tail : Tail) : tail.wake.isCancelled = tail.isCancelled := by
  unfold wake
  split
  · split_ifs <;> rfl
  · rfl

theorem query?_of_isCancelled (hcancelled : tail.isCancelled = true) (clock : Instant) :
    tail.query? clock = none := by
  cases hphase : tail.phase <;> simp [query?, readClock, hphase, hcancelled]

theorem added_of_isCancelled (hcancelled : tail.isCancelled = true) : tail.added = [] := by
  unfold added push
  split <;> simp [hcancelled]

theorem take_of_isCancelled (hcancelled : tail.isCancelled = true) :
    tail.take = (.finished, tail) := by
  rw [take, if_pos hcancelled]

end Tail

/-! ### Looking at a bounded read -/

namespace BoundedRead

theorem look_of_isCancelled {read : BoundedRead} (hcancelled : read.isCancelled = true)
    (inquiry : Inquiry) :
    read.look inquiry = (.finished, read, inquiry) ∧ read.query? inquiry = none := by
  have hawaits : read.awaits = false := by
    unfold awaits
    split
    · rw [hcancelled]
      rfl
    · rfl
  have hnext : read.lookWith (.ok []) = (.finished, read) := by
    simp [lookWith, next, hcancelled]
  constructor
  · simp [look, hawaits, hnext]
  · cases inquiry <;> simp [query?, hawaits]

/-- Looking once the store has answered is a step of a bounded read. -/
theorem look_answered {σ : Type} (source : Source σ) (read : BoundedRead) (state : σ) :
    let inquiry := Inquiry.answered (source read.query state).1
    let found := read.next source state
    read.look inquiry = (found.1.elim .finished .item, found.2.1, inquiry) := by
  intro inquiry found
  obtain ⟨query, phase, isCancelled⟩ := read
  cases isCancelled with
  | true => exact (look_of_isCancelled rfl inquiry).1
  | false =>
    cases phase with
    | handing items => cases items <;> rfl
    | unasked =>
      by_cases hempty : query.window.isEmpty = true
      · simp [inquiry, found, look, awaits, lookWith, next, Query.run, hempty, itemsOf, hand]
      · simp [inquiry, found, look, awaits, lookWith, next, Query.run, hempty]

end BoundedRead

/-! ### What a step can do to a read -/

namespace Course

variable {course : Course}

/-- Reading the clock and acting on it at once is one step of a tail. -/
theorem run_readClock_startQuery (tail : Tail) (clock : Instant) (isHeld : Bool)
    (queries : List Query) (queued yielded : List Item) :
    (run ⟨.live tail none, isHeld, queries, queued, yielded⟩
      [.readClock clock, .startQuery]).reading = .live (tail.readClock clock) none := by
  by_cases hready : tail.phase = .ready
  · simp [run, step, hready]
  · have hsame : tail.readClock clock = tail := by
      unfold Tail.readClock
      split
      next hphase => exact absurd hphase hready
      next => rfl
    simp [run, step, hready, hsame]

/-- The kind of a read stays. -/
theorem isLive_step (course : Course) (next : ReadStep) :
    (course.step next).reading.isLive = course.reading.isLive := by
  obtain ⟨reading, isHeld, queries, queued, yielded⟩ := course
  cases reading with
  | bounded read inquiry =>
    cases next with
    | look => cases isHeld <;> rfl
    | receive answer => cases inquiry <;> rfl
    | cancel ending => cases ending <;> rfl
    | _ => rfl
  | live tail clock =>
    cases next with
    | look => cases isHeld <;> rfl
    | readClock now =>
      cases clock with
      | none =>
        simp only [step]
        split_ifs <;> rfl
      | some earlier => rfl
    | startQuery => cases clock <;> rfl
    | cancel ending => cases ending <;> rfl
    | _ => rfl

/-- A stream that was dropped stays so. -/
theorem isHeld_step (hdropped : course.isHeld = false) (next : ReadStep) :
    (course.step next).isHeld = false := by
  cases next with
  | look => rw [step, look, if_neg (by simp [hdropped]), hdropped]
  | cancel ending =>
    cases ending with
    | drop => rfl
    | _ => exact hdropped
  | readClock clock =>
    simp only [step]
    split
    · split_ifs <;> exact hdropped
    · exact hdropped
  | _ =>
    simp only [step]
    split <;> exact hdropped

/-- A cancellation is not taken back. -/
theorem isCancelled_step (hcancelled : course.reading.isCancelled = true) (next : ReadStep) :
    (course.step next).reading.isCancelled = true := by
  obtain ⟨reading, isHeld, queries, queued, yielded⟩ := course
  cases reading with
  | bounded read inquiry =>
    cases next with
    | look =>
      cases isHeld with
      | false => exact hcancelled
      | true =>
        simp only [step, look, if_true, (read.look_of_isCancelled hcancelled inquiry).1]
        exact hcancelled
    | receive answer => cases inquiry <;> exact hcancelled
    | cancel ending =>
      cases ending with
      | drop => exact hcancelled
      | _ => rfl
    | _ => exact hcancelled
  | live tail clock =>
    cases next with
    | look =>
      cases isHeld with
      | false => exact hcancelled
      | true =>
        simp only [step, look, if_true, tail.take_of_isCancelled hcancelled]
        exact hcancelled
    | readClock now =>
      cases clock with
      | none =>
        simp only [step]
        split_ifs <;> exact hcancelled
      | some earlier => exact hcancelled
    | startQuery =>
      cases clock with
      | none => exact hcancelled
      | some now => exact (tail.isCancelled_readClock now).trans hcancelled
    | receive answer => exact (tail.isCancelled_receive answer).trans hcancelled
    | push => exact tail.isCancelled_push.trans hcancelled
    | wake => exact tail.isCancelled_wake.trans hcancelled
    | cancel ending => cases ending <;> rfl

/-! ### A read that is over -/

theorem IsOver.step (hover : course.IsOver) (next : ReadStep) : (course.step next).IsOver := by
  rcases hover with hcancelled | ⟨hbounded, hdropped⟩
  · exact Or.inl (isCancelled_step hcancelled next)
  · exact Or.inr ⟨(course.isLive_step next).trans hbounded, isHeld_step hdropped next⟩

/-- A reader who looks for an item finds that the read has ended, and that is all. -/
theorem IsOver.look (hover : course.IsOver) : course.look = (.finished, course) := by
  obtain ⟨reading, isHeld, queries, queued, yielded⟩ := course
  cases isHeld with
  | false => rfl
  | true =>
    have hcancelled : reading.isCancelled = true := by simpa [IsOver] using hover
    cases reading with
    | bounded read inquiry =>
      obtain ⟨hlook, hquery⟩ := read.look_of_isCancelled hcancelled inquiry
      simp [Course.look, hlook, hquery, Taken.items]
    | live tail clock =>
      simp [Course.look, Tail.take_of_isCancelled hcancelled, Taken.items]

/-- A tail that is over is one that was cancelled, for dropping its stream cancels it. -/
theorem IsOver.isCancelled_of_live {tail : Tail} {clock : Option Instant} (hover : course.IsOver)
    (hlive : course.reading = .live tail clock) : tail.isCancelled = true := by
  rcases hover with hcancelled | ⟨hbounded, -⟩
  · rwa [hlive] at hcancelled
  · rw [hlive] at hbounded
    cases hbounded

theorem SameNotes.trans {first second third : Course} (hfirst : first.SameNotes second)
    (hsecond : second.SameNotes third) : first.SameNotes third where
  queries := hsecond.queries.trans hfirst.queries
  queued := hsecond.queued.trans hfirst.queued
  yielded := hsecond.yielded.trans hfirst.yielded

theorem sameNotes_cancel (course : Course) (ending : Ending) :
    course.SameNotes (course.step (.cancel ending)) := by
  cases ending <;> exact ⟨rfl, rfl, rfl⟩

/-- Each step leaves a read that is over as it was for its reader, its store and its queue. -/
theorem IsOver.sameNotes_step (hover : course.IsOver) (next : ReadStep) :
    course.SameNotes (course.step next) := by
  cases next with
  | look =>
    rw [Course.step, hover.look]
    exact ⟨rfl, rfl, rfl⟩
  | startQuery =>
    simp only [Course.step]
    split
    next tail clock hlive =>
      have hnone := Tail.query?_of_isCancelled (hover.isCancelled_of_live hlive) clock
      refine ⟨?_, rfl, rfl⟩
      rw [hnone, Option.toList_none, List.append_nil]
    next => exact ⟨rfl, rfl, rfl⟩
  | push =>
    simp only [Course.step]
    split
    next tail clock hlive =>
      have hnothing := Tail.added_of_isCancelled (hover.isCancelled_of_live hlive)
      refine ⟨rfl, ?_, rfl⟩
      rw [hnothing, List.append_nil]
    next => exact ⟨rfl, rfl, rfl⟩
  | readClock clock =>
    simp only [Course.step]
    split
    · split_ifs <;> exact ⟨rfl, rfl, rfl⟩
    · exact ⟨rfl, rfl, rfl⟩
  | cancel ending => exact course.sameNotes_cancel ending
  | _ =>
    simp only [Course.step]
    split <;> exact ⟨rfl, rfl, rfl⟩

theorem isCancelled_run (hcancelled : course.reading.isCancelled = true) (steps : List ReadStep) :
    (course.run steps).reading.isCancelled = true := by
  induction steps generalizing course with
  | nil => exact hcancelled
  | cons next rest ih => exact ih (isCancelled_step hcancelled next)

theorem IsOver.run (hover : course.IsOver) (steps : List ReadStep) :
    (course.run steps).IsOver ∧ course.SameNotes (course.run steps) := by
  induction steps generalizing course with
  | nil => exact ⟨hover, rfl, rfl, rfl⟩
  | cons next rest ih =>
    obtain ⟨hrest, hsame⟩ := ih (hover.step next)
    exact ⟨hrest, (hover.sameNotes_step next).trans hsame⟩

/-! ### Cancelling -/

/-- The token is cancelled, except that of a bounded read whose stream is dropped. -/
theorem isCancelled_cancel (course : Course) (ending : Ending) :
    course.reading.isLive = false ∧ ending = .drop ∨
      (course.step (.cancel ending)).reading.isCancelled = true := by
  obtain ⟨reading, isHeld, queries, queued, yielded⟩ := course
  cases reading with
  | bounded read inquiry =>
    cases ending with
    | drop => exact Or.inl ⟨rfl, rfl⟩
    | _ => exact Or.inr rfl
  | live tail clock => cases ending <;> exact Or.inr rfl

theorem isOver_cancel (course : Course) (ending : Ending) :
    (course.step (.cancel ending)).IsOver := by
  rcases course.isCancelled_cancel ending with ⟨hbounded, rfl⟩ | hcancelled
  · exact Or.inr ⟨(course.isLive_step _).trans hbounded, rfl⟩
  · exact Or.inl hcancelled

/-- Cancelling again only lets the stream go, if that is how it is done. -/
theorem step_cancel_of_isCancelled (hcancelled : course.reading.isCancelled = true)
    (again : Ending) :
    course.step (.cancel again) = { course with isHeld := course.isHeld && again ≠ .drop } := by
  obtain ⟨reading, isHeld, queries, queued, yielded⟩ := course
  cases reading with
  | bounded read inquiry =>
    obtain ⟨query, phase, isCancelled⟩ := read
    obtain rfl : isCancelled = true := hcancelled
    cases again <;> simp [step, Reading.cancel, Reading.dropped, BoundedRead.cancel]
  | live tail clock =>
    obtain ⟨target, cursor, phase, queue, isCancelled⟩ := tail
    obtain rfl : isCancelled = true := hcancelled
    cases again <;> simp [step, Reading.cancel, Reading.dropped, Tail.cancel]

theorem isLive_run (course : Course) (steps : List ReadStep) :
    (course.run steps).reading.isLive = course.reading.isLive := by
  induction steps generalizing course with
  | nil => rfl
  | cons next rest ih => exact (ih (course.step next)).trans (course.isLive_step next)

/-- Whatever came before and whatever comes after, a read that is cancelled is over from then on:
no query is started, nothing is put into the queue, the reader gets nothing and finds that the
read has ended. Cancelling it again changes nothing; only the token of a bounded read whose stream
was dropped can still be cancelled after that. -/
theorem cancel_isFinal (course : Course) (before after : List ReadStep) (ending : Ending) :
    let ended := course.run (before ++ .cancel ending :: after)
    (course.run before).SameNotes ended ∧
      ended.look = (.finished, ended) ∧
      (course.reading.isLive = false ∧ ending = .drop ∨
        ∀ again, ended.step (.cancel again) =
          { ended with isHeld := ended.isHeld && again ≠ .drop }) := by
  intro ended
  set reached := course.run before with hreached
  have hended : ended = (reached.step (.cancel ending)).run after := List.foldl_append
  obtain ⟨hover, hsame⟩ := (reached.isOver_cancel ending).run after
  rw [← hended] at hover hsame
  refine ⟨(reached.sameNotes_cancel ending).trans hsame, hover.look, ?_⟩
  rcases reached.isCancelled_cancel ending with ⟨hbounded, hdrop⟩ | hcancelled
  · rw [hreached, isLive_run] at hbounded
    exact Or.inl ⟨hbounded, hdrop⟩
  · right
    intro again
    apply step_cancel_of_isCancelled
    rw [hended]
    exact isCancelled_run hcancelled after

/-- A point in the queue is there for the reader, but not once the tail is cancelled. -/
example :
    let answer : List Series := [⟨"m.a", [(some (Binary64.ofInt 1), Binary64.ofInt 60)]⟩]
    let course := run ⟨.live (Tail.start "m.a" .epoch) none, true, [], [], []⟩
      [.readClock ⟨90, 0, by decide, by decide⟩, .startQuery, .receive (.ok answer), .push]
    course.queries.length = 1 ∧ course.queued.length = 1 ∧
      (course.step .look).yielded = course.queued ∧
      ((course.step (.cancel .token)).step .look).yielded = [] := by
  decide +kernel

end Course

end MetricBridge
