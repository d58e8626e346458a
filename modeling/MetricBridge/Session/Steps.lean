/-
# What is done in a session

A session goes on step by step: records are written, reads are opened, looked at and
ended, the clocks are moved, and the installation is switched and inspected. Every
step has a reply. After a step the polls that are due at the present instant of the timer
have been done; so a tail polls for the first time in the step that opens it.

Opening a read under a name that is in use ends the read that had it, but only if the new one
can be opened.
-/

import MetricBridge.Ingest.Batch
import MetricBridge.Session.Basic

namespace MetricBridge

open Time (Instant Duration)

/-- One step of a session. -/
inductive SessionStep where
  | write (records : List Record)
  | openRead (id : String) (options : List (String × OptionValue)) (source : SelectorSource)
  | execute (id : String) (plan : Plan)
  /-- Opens a tail with a poll interval of its own. -/
  | tail (id target : String) (cursor : Instant) (interval : Nat)
  | take (id : String) (timeout : Nat)
  | drain (id : String) (timeout count : Nat)
  | cancel (id : String)
  /-- From now on the read is cancelled through its token. -/
  | useToken (id : String)
  | drop (id : String)
  | sleep (milliseconds : Nat)
  | advance (duration : Duration)
  | refusePayloads (on : Bool)
  | refuseQueries (on : Bool)
  | layDown (answer : Option (List Series))
  | queries
  | payloads
  | size

/-- The reply to a step. -/
inductive SessionReply where
  | written (outcome : WriteOutcome)
  | opened (isLive : Bool)
  | refused (fault : Fault)
  | found (found : Session.Found)
  | drained (found : List Session.Found)
  | done
  | unknown
  | queries (queries : List Query)
  | payloads (payloads : List String)
  | size (count : Nat)

namespace Session

/-- The session with a new tail under a name. -/
def addTail (session : Session) (id target : String) (cursor : Instant) (interval : Nat) :
    Session :=
  let timed : TimedTail :=
    ⟨Tail.start target cursor, interval, session.timer, session.ticket⟩
  { session.putRead id (.live timed) with ticket := session.ticket + 1 }

/-- The session with a planned read under a name. -/
def addPlan (session : Session) (id : String) (plan : Plan) : Session :=
  match plan.range.interval? with
  | some window => session.putRead id (.bounded (BoundedRead.start ⟨plan.target, window⟩))
  | none =>
    let cursor := plan.range.start.getD session.clock.truncate
    session.addTail id plan.target cursor session.interval

/-- A read that is cancelled. -/
def cancelled : OpenRead → OpenRead
  | .bounded read => .bounded read.cancel
  | .live timed => .live { timed with tail := timed.tail.cancel.pushAll.wake }

/-- One step without the polls after it. -/
def act (session : Session) : SessionStep → SessionReply × Session
  | .write records =>
    let (outcome, installation) :=
      Record.writeAll Installation.send session.clock records session.installation
    (.written outcome, { session with installation })
  | .openRead id options source =>
    match Plan.ofStatement options source session.clock with
    | .ok plan => (.opened plan.range.isLive, session.addPlan id plan)
    | .error fault => (.refused fault, session)
  | .execute id plan => (.opened plan.range.isLive, session.addPlan id plan)
  | .tail id target cursor interval =>
    (.opened true, session.addTail id target cursor interval)
  | .take id timeout =>
    let (found, session) := session.take id timeout
    (.found found, session)
  | .drain id timeout count =>
    let (found, session) := drain id timeout count session
    (.drained found, session)
  | .cancel id =>
    match session.read? id with
    | some read => (.done, session.putRead id (cancelled read))
    | none => (.unknown, session)
  | .useToken _ => (.done, session)
  | .drop id => (.done, session.dropRead id)
  | .sleep milliseconds => (.done, session.runTo (session.timer + milliseconds))
  | .advance duration =>
    (.done, { session with clock := (session.clock.add? duration).getD session.clock })
  | .refusePayloads on =>
    (.done, { session with
      installation := { session.installation with refusesPayloads := on } })
  | .refuseQueries on =>
    (.done, { session with
      installation := { session.installation with refusesQueries := on } })
  | .layDown answer =>
    (.done, { session with installation := { session.installation with laidDown := answer } })
  | .queries =>
    (.queries session.installation.queries,
      { session with installation := { session.installation with queries := [] } })
  | .payloads =>
    (.payloads session.installation.payloads,
      { session with installation := { session.installation with payloads := [] } })
  | .size => (.size session.installation.store.size, session)

/-- One step with the polls after it. -/
def step (session : Session) (step : SessionStep) : SessionReply × Session :=
  let (reply, session) := session.act step
  (reply, session.settle)

/-- The replies to some steps. -/
def replies : List SessionStep → Session → List SessionReply
  | [], _ => []
  | first :: rest, session =>
    let (reply, session) := session.step first
    reply :: replies rest session

end Session

end MetricBridge
