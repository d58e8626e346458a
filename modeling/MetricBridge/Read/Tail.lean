/-
# Reads without an end

A tail asks the store again and again for what has come since the last point it
delivered. It has two sides. The poller reads the clock, asks for the window from its cursor
to the present second, puts the points of the answer into a queue, and sleeps. The reader
takes items from the queue. The cursor is the time of the latest point in the queue so far,
and it only moves forward; so no point is delivered twice, however often the store
answers with it.

The queue has a capacity. A poller that finds it full waits in the middle of its
poll until the reader has taken something. A fault is put into the queue like a
point, and after it the poller stops for good.

Cancelling is final. From then on the reader gets nothing, not even what is in the queue, and
whatever the poller is about to do, it stops instead.

Each function below is one step of one side, and a step that does not fit the phase of the
poller changes nothing. Any order of steps is possible; what holds of all of them holds
of every way in which the two sides and the store take turns.
-/

import MetricBridge.Read.Bounded

namespace MetricBridge

open Time (Instant)

/-- What the poller of a tail is doing. -/
inductive TailPhase where
  /-- It is about to read the clock. -/
  | ready
  /-- The store has been asked and has not answered. -/
  | asking (query : Query)
  /-- Points of an answer that are not in the queue yet. -/
  | queuing (points : List Point)
  /-- A fault that is not in the queue yet. -/
  | failing (fault : Fault)
  /-- It waits for the next poll. -/
  | sleeping
  /-- It does nothing any more. -/
  | stopped
  deriving DecidableEq

/-- A read without an end. -/
structure Tail where
  target : String
  /-- Points up to here have been delivered or are not wanted. -/
  cursor : Instant
  phase : TailPhase
  /-- What the reader can take, oldest first. -/
  queue : List Item
  isCancelled : Bool

/-- What a reader finds when it looks for an item. -/
inductive Taken where
  | item (item : Item)
  /-- Nothing is there yet. -/
  | pending
  /-- Nothing will come any more. -/
  | finished

namespace Tail

/-- How many items the queue holds. -/
def capacity : Nat := 128

/-- A tail of everything after an instant. -/
def start (target : String) (cursor : Instant) : Tail :=
  ⟨target, cursor, .ready, [], false⟩

/-- The query for what has come since the cursor. -/
def queryUntil (tail : Tail) (now : Instant) : Query :=
  ⟨tail.target, ⟨some tail.cursor, now⟩⟩

/-- The poller reads the clock, and asks if the clock has moved on from the cursor. -/
def readClock (clock : Instant) (tail : Tail) : Tail :=
  match tail.phase with
  | .ready =>
    if tail.isCancelled then { tail with phase := .stopped }
    else if clock.truncate ≤ tail.cursor then { tail with phase := .sleeping }
    else { tail with phase := .asking (tail.queryUntil clock.truncate) }
  | _ => tail

/-- The store answers. -/
def receive (answer : Except Fault (List Series)) (tail : Tail) : Tail :=
  match tail.phase with
  | .asking query =>
    if tail.isCancelled then { tail with phase := .stopped }
    else
      match query.select answer with
      | .ok points => { tail with phase := .queuing points }
      | .error fault => { tail with phase := .failing fault }
  | _ => tail

/-- The queue can hold another item. -/
def hasRoom (tail : Tail) : Bool :=
  tail.queue.length < capacity

/-- The poller puts one item into the queue, or ends its poll if there is none left. It waits
while the queue is full. -/
def push (tail : Tail) : Tail :=
  match tail.phase with
  | .queuing [] => { tail with phase := .sleeping }
  | .queuing (point :: rest) =>
    if tail.isCancelled then { tail with phase := .stopped }
    else if tail.hasRoom then
      { tail with
        phase := .queuing rest
        queue := tail.queue ++ [.ok point]
        cursor := max tail.cursor point.time }
    else tail
  | .failing fault =>
    if tail.isCancelled then { tail with phase := .stopped }
    else if tail.hasRoom then
      { tail with phase := .stopped, queue := tail.queue ++ [.error fault] }
    else tail
  | _ => tail

/-- The poller has slept long enough, or is woken by being cancelled. -/
def wake (tail : Tail) : Tail :=
  match tail.phase with
  | .sleeping =>
    if tail.isCancelled then { tail with phase := .stopped } else { tail with phase := .ready }
  | _ => tail

/-- The reader looks for an item. -/
def take (tail : Tail) : Taken × Tail :=
  if tail.isCancelled then (.finished, tail)
  else
    match tail.queue with
    | item :: rest => (.item item, { tail with queue := rest })
    | [] => (if tail.phase = .stopped then .finished else .pending, tail)

/-- The tail is cancelled, by whichever of the ways there are. -/
def cancel (tail : Tail) : Tail :=
  { tail with isCancelled := true }

/-- How many steps of the poller it takes at most until it waits for the queue, sleeps or
stops. -/
def unqueued (tail : Tail) : Nat :=
  match tail.phase with
  | .queuing points => points.length + 1
  | .failing _ => 1
  | _ => 0

/-- The poller puts into the queue what it can. -/
def pushAll (tail : Tail) : Tail :=
  Nat.repeat push tail.unqueued tail

/-- A poll from reading the clock as far as the queue allows. -/
def poll {σ : Type} (source : Source σ) (clock : Instant) (tail : Tail) (state : σ) : Tail × σ :=
  let tail := tail.readClock clock
  match tail.phase with
  | .asking query =>
    let (answer, state) := source query state
    ((tail.receive answer).pushAll, state)
  | _ => (tail, state)

end Tail

end MetricBridge
