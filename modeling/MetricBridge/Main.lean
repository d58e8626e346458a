/-
# The program

Reads the arguments, the environment and the clock, asks the server, and writes what
comes of it. All decisions are made elsewhere; this module only carries them out.
-/

import MetricBridge.CommandLine.Run
import MetricBridge.Dictionary
import MetricBridge.Read.Tail
import MetricBridge.Render.Wire
import Std.Async.DNS
import Std.Async.TCP
import Std.Async.Timer
import Std.Time.DateTime

namespace MetricBridge.CommandLine

open Std.Async
open Time (Instant)

/-- The variables that the settings are made of. -/
def variableNames : List String :=
  ["GRAPHITE_CARBON_HOST", "GRAPHITE_CARBON_PORT", "GRAPHITE_WEBAPP_HOST",
    "GRAPHITE_WEBAPP_PORT", "GRAPHITE_USERNAME", "GRAPHITE_PASSWORD",
    "GRAPHITE_POLL_INTERVAL_MS", "GRAPHITE_REQUEST_TIMEOUT_MS"]

/-- The environment of the program. -/
def readEnvironment : IO Settings.Environment := do
  let entries ← variableNames.mapM fun name => return (name, ← IO.getEnv name)
  return fun name => (Dictionary.get? name entries).join

/-- The present time. -/
def readClock : IO Instant := do
  let now := (← Std.Time.Timestamp.now).toDurationSinceUnixEpoch
  let instant := Instant.ofParts? now.second.val now.nano.val.toNat
  return instant.getD Instant.epoch

/-- The addresses of the host of a request. -/
def addressesOf (request : Render.Request) : Async (List Std.Net.SocketAddress) := do
  let host := String.ofList (request.url.host.getD [])
  let default := (Url.defaultPort? request.url.scheme).getD 80
  let port := UInt16.ofNat (request.url.port.getD default)
  let bare := String.ofList (host.toList.filter fun c => c ≠ '[' ∧ c ≠ ']')
  let found ← DNS.getAddrInfo bare ""
  return found.toList.map fun
    | .v4 address => .v4 ⟨address, port⟩
    | .v6 address => .v6 ⟨address, port⟩

/-- Everything that comes in over a connection. -/
partial def receiveAll (socket : TCP.Socket.Client) (received : ByteArray) : Async ByteArray := do
  match ← socket.recv? 65536 with
  | some bytes => receiveAll socket (received ++ bytes)
  | none => return received

/-- Sends a request to an address and waits for the end of the answer. -/
def exchange (request : Render.Request) (address : Std.Net.SocketAddress) :
    Async (Option Render.Answer) := do
  let socket ← TCP.Socket.Client.mk
  socket.connect address
  socket.send request.head.toUTF8
  let received ← receiveAll socket ByteArray.empty
  return Render.Answer.ofWire? received.toList

/-- Tries the addresses of a request one after the other. -/
def tryAll (request : Render.Request) :
    List Std.Net.SocketAddress → Async (Option Render.Answer)
  | [] => return none
  | address :: rest => do
    try
      match ← exchange request address with
      | some answer => return some answer
      | none => tryAll request rest
    catch _ => tryAll request rest

/-- The answer to a request, if there is one in time. Only plain connections are made. -/
def ask (timeout : Nat) (request : Render.Request) : IO (Option Render.Answer) := do
  if request.url.scheme ≠ "http" then return none
  let answered : Async (Option Render.Answer) := do tryAll request (← addressesOf request)
  let late : Async (Option Render.Answer) := do
    sleep (Std.Time.Millisecond.Offset.ofNat timeout)
    return none
  try (Async.race answered late).block catch _ => return none

/-- A network in which one query has been asked and answered. -/
def networkFor (settings : Settings) (query : Query) : IO Render.Network := do
  match (endpointOf settings).request Url.plainNaming query with
  | .error _ => return Render.Network.silent
  | .ok request =>
    let answer ← ask settings.requestTimeout request
    return fun _ => answer

/-- Carries out what a run leaves behind. -/
def carryOut (outcome : Outcome) : IO UInt32 := do
  (← IO.getStdout).putStr outcome.output
  outcome.messages.forM fun message => do (← IO.getStderr).putStrLn message
  return UInt32.ofNat outcome.status

/-- Takes everything that a tail has in its queue. -/
def takeAll : Nat → Tail → List Item × Bool × Tail
  | 0, tail => ([], false, tail)
  | count + 1, tail =>
    match tail.take with
    | (.item item, tail) =>
      let (items, isFinished, tail) := takeAll count tail.pushAll
      (item :: items, isFinished, tail)
    | (.pending, tail) => ([], false, tail)
    | (.finished, tail) => ([], true, tail)

/-- Reads without end, writing what comes in as a table; a fault ends it. -/
partial def follow (settings : Settings) (tail : Tail) (isFirst : Bool) : IO UInt32 := do
  let clock ← readClock
  let asking := tail.wake.readClock clock
  let polled ←
    match asking.phase with
    | .asking query =>
      let network ← networkFor settings query
      let (answer, _) := (endpointOf settings).load network query ⟨[]⟩
      pure (asking.receive answer).pushAll
    | _ => pure asking
  let (items, isFinished, rested) := takeAll (polled.unqueued + Tail.capacity + 1) polled
  let header := if isFirst then some Point.header else none
  let table := Table.ofRows header (items.map fun item => item.map Point.row)
  (← IO.getStdout).putStr (String.ofList table.text)
  (← IO.getStdout).flush
  match table.failure with
  | some fault =>
    (← IO.getStderr).putStrLn (faultLine fault)
    return 1
  | none =>
    if isFinished then return 0
    IO.sleep (UInt32.ofNat settings.pollInterval)
    follow settings rested (isFirst && items.isEmpty)

/-- Runs the program. -/
def run (arguments : List String) : IO UInt32 := do
  let environment ← readEnvironment
  let clock ← readClock
  match prepare arguments environment clock with
  | .error outcome => carryOut outcome
  | .ok (plan, settings) =>
    match plan.range.interval? with
    | some window =>
      let query : Query := ⟨plan.target, window⟩
      let network ← if window.isEmpty then pure Render.Network.silent else networkFor settings query
      carryOut (readWindow Sink.unlimited (endpointOf settings) network query)
    | none => follow settings (Tail.start plan.target (plan.range.start.getD clock.truncate)) true

end MetricBridge.CommandLine

/-- The entry point. -/
def main (arguments : List String) : IO UInt32 :=
  MetricBridge.CommandLine.run arguments
