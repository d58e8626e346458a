/-
# Sessions and their two clocks

A session is an installation in memory together with named reads of it. It has two
clocks. The wall clock is what records are stamped with and what ranges are resolved
against; it moves only when it is told to. The timer counts milliseconds and decides when
tails poll; it moves while somebody sleeps or waits for an item.

A tail waits for its poll interval after each poll that is finished. Tails whose
waits end at the same instant poll in the order in which their waits began, which is the
order of their tickets.
-/

import MetricBridge.Read.Plan
import MetricBridge.Read.Tail
import MetricBridge.Store.Memory

namespace MetricBridge

open Time (Instant Duration)

/-- A tail that takes part in a session. -/
structure TimedTail where
  tail : Tail
  /-- Milliseconds between polls. -/
  interval : Nat
  /-- When it polls next, while it sleeps. -/
  wakeAt : Nat
  ticket : Nat

namespace TimedTail

/-- The tail is going to poll at an instant before `bound`. -/
def isDue (timed : TimedTail) (bound : Nat) : Bool :=
  (timed.tail.phase = .sleeping || timed.tail.phase = .ready) && timed.wakeAt < bound

/-- The first tail polls before the second one. -/
def before (a b : TimedTail) : Bool :=
  a.wakeAt < b.wakeAt || (a.wakeAt = b.wakeAt && a.ticket < b.ticket)

end TimedTail

/-- A read that takes part in a session. -/
inductive OpenRead where
  | bounded (read : BoundedRead)
  | live (tail : TimedTail)

namespace OpenRead

/-- The read has no end. -/
def isLive : OpenRead → Bool
  | bounded _ => false
  | live _ => true

end OpenRead

/-- An installation with its reads and clocks. -/
structure Session where
  /-- The wall clock. -/
  clock : Instant
  /-- Milliseconds since the session began. -/
  timer : Nat
  /-- Milliseconds between the polls of a tail. -/
  interval : Nat
  installation : Installation
  reads : List (String × OpenRead)
  /-- The next ticket. -/
  ticket : Nat

namespace Session

/-- A session that begins at an instant. -/
def start (clock : Instant) (interval : Nat) : Session :=
  ⟨clock, 0, interval, Installation.empty, [], 0⟩

/-- The read of a name. -/
def read? (session : Session) (id : String) : Option OpenRead :=
  Dictionary.get? id session.reads

/-- The session with a read under a name. -/
def putRead (session : Session) (id : String) (read : OpenRead) : Session :=
  { session with reads := Dictionary.put id read session.reads }

/-- The session without the read of a name. -/
def dropRead (session : Session) (id : String) : Session :=
  { session with reads := session.reads.filter fun entry => entry.1 ≠ id }

/-- The session with a tail under a name, whose wait begins now if it sleeps. -/
def restTail (session : Session) (id : String) (timed : TimedTail) : Session :=
  if timed.tail.phase = .sleeping then
    let wakeAt := session.timer + max 1 timed.interval
    { session.putRead id (.live { timed with wakeAt, ticket := session.ticket }) with
      ticket := session.ticket + 1 }
  else session.putRead id (.live timed)

/-- The session with a tail from which something was taken. A poll that waited for the queue
goes on and may be finished by that. -/
def resumeTail (session : Session) (id : String) (timed : TimedTail) : Session :=
  if timed.tail.phase = .sleeping then session.putRead id (.live timed)
  else session.restTail id { timed with tail := timed.tail.pushAll }

/-! ### Polls that are due -/

/-- Of two tails that are due, the one that polls first. -/
def sooner : Option (String × TimedTail) → Option (String × TimedTail) →
    Option (String × TimedTail)
  | none, other => other
  | some first, none => some first
  | some first, some other =>
    if other.2.before first.2 then some other else some first

/-- The tail of an entry, if it polls before an instant. -/
def dueIn? (bound : Nat) : String × OpenRead → Option (String × TimedTail)
  | (id, .live timed) => if timed.isDue bound then some (id, timed) else none
  | (_, .bounded _) => none

/-- The tail that polls first among those that poll before an instant. -/
def nextDue? (session : Session) (bound : Nat) : Option (String × TimedTail) :=
  session.reads.foldl (fun found entry => sooner found (dueIn? bound entry)) none

/-- One tail polls, the timer standing at the end of its wait. -/
def pollTail (session : Session) (id : String) (timed : TimedTail) : Session :=
  let timer := max session.timer timed.wakeAt
  let (tail, installation) :=
    timed.tail.wake.poll Installation.load session.clock session.installation
  { session with timer, installation }.restTail id { timed with tail }

/-- Runs the polls before an instant, `fuel` of them at most. -/
def runPolls (bound : Nat) : Nat → Session → Session
  | 0, session => session
  | fuel + 1, session =>
    match session.nextDue? bound with
    | none => session
    | some (id, timed) => runPolls bound fuel (session.pollTail id timed)

/-- How many polls there can be at most before an instant: every tail polls once in a
millisecond at most. -/
def pollsBefore (session : Session) (bound : Nat) : Nat :=
  (bound - session.timer + 1) * session.reads.length

/-- Lets the timer run, with all polls up to and including its end. -/
def runTo (session : Session) (timer : Nat) : Session :=
  { runPolls (timer + 1) (session.pollsBefore (timer + 1)) session with timer }

/-- Runs the polls that are due already. -/
def settle (session : Session) : Session :=
  session.runTo session.timer

/-! ### Taking items -/

/-- What a reader gets in a session. -/
inductive Found where
  | item (item : Item)
  /-- The read has ended. -/
  | finished
  /-- Nothing came in time. -/
  | timeout
  /-- There is no read of that name. -/
  | unknown

/-- What a reader finds at once; none if it would have to wait. -/
def takeNow (session : Session) (id : String) : Option Found × Session :=
  match session.read? id with
  | none => (some .unknown, session)
  | some (.bounded read) =>
    let (item, read, installation) := read.next Installation.load session.installation
    (some (item.elim .finished .item),
      { session with installation }.putRead id (.bounded read))
  | some (.live timed) =>
    match timed.tail.take with
    | (.item item, tail) => (some (.item item), session.resumeTail id { timed with tail })
    | (.finished, _) => (some .finished, session)
    | (.pending, _) => (none, session)

/-- Waits for an item until an instant, running at most `fuel` polls meanwhile. A poll at the
very instant comes too late. -/
def await (id : String) (deadline : Nat) : Nat → Session → Found × Session
  | 0, session => (.timeout, { session with timer := deadline })
  | fuel + 1, session =>
    match session.takeNow id with
    | (some found, session) => (found, session)
    | (none, session) =>
      match session.nextDue? deadline with
      | none => (.timeout, { session with timer := deadline })
      | some (due, timed) => await id deadline fuel (session.pollTail due timed)

/-- Takes an item, waiting for it for some milliseconds at most. -/
def take (session : Session) (id : String) (timeout : Nat) : Found × Session :=
  let deadline := session.timer + timeout
  session.await id deadline (session.pollsBefore deadline + 1)

/-- Takes items until there is none, `count` of them at most. -/
def drain (id : String) (timeout : Nat) : Nat → Session → List Found × Session
  | 0, session => ([], session)
  | count + 1, session =>
    match session.take id timeout with
    | (.item item, session) =>
      let (rest, session) := drain id timeout count session.settle
      (.item item :: rest, session)
    | (found, session) => ([found], session)

end Session

end MetricBridge
