/-
# One run of the program

The arguments are split first, then the settings are taken from the environment, then
the read is planned; the first thing that is wrong ends the run. What the read hands out
goes to the output as a table. Wrong arguments end with status 2 and their plain
message, everything else with status 1 and a line that names the program, the message
and, except for settings, the code.

A run whose read has an end is a function of its arguments, its environment, the clock and
the client. A read without an end has a plan but no outcome.
-/

import MetricBridge.CommandLine.Arguments
import MetricBridge.Export.Points
import MetricBridge.Read.Bounded
import MetricBridge.Read.Plan
import MetricBridge.Render.Client
import MetricBridge.Settings.Environment
import MetricBridge.Text.Terminal

namespace MetricBridge.CommandLine

open Time (Instant)

/-- What a run leaves behind. -/
structure Outcome where
  status : Nat
  output : String
  messages : List String
  /-- The requests that were answered. -/
  requests : List Render.Request
  deriving DecidableEq

/-- A line of the log. -/
def logLine (message : String) : String :=
  "ERROR graphite_adapter: " ++ Text.forTerminal message

/-- The line of the log about a fault. -/
def faultLine (fault : Fault) : String :=
  logLine fault.message ++ " code=\"" ++ fault.code ++ "\""

/-- A run that ends before anything is sent. -/
def refused (status : Nat) (message : String) : Outcome :=
  ⟨status, "", [message], []⟩

/-- What the arguments and the environment ask for: a plan, and the endpoint for it. -/
def prepare (arguments : List String) (environment : Settings.Environment) (clock : Instant) :
    Except Outcome (Plan × Settings) :=
  match Arguments.ofList arguments with
  | .error error => .error (refused 2 error.message)
  | .ok arguments =>
    match Settings.ofEnvironment environment with
    | .error fault =>
      .error (refused 1 (logLine ("Failed to load configuration: " ++ fault.message)))
    | .ok settings =>
      match Plan.ofStatement arguments.optionValues (.words arguments.selector) clock with
      | .error fault => .error (refused 1 (faultLine fault))
      | .ok plan => .ok (plan, settings)

/-- Where the settings say that series are asked for. -/
def endpointOf (settings : Settings) : Render.Endpoint :=
  ⟨settings.render.baseUrl, settings.render.credentials?⟩

/-- The end of a run whose read has handed out some items. -/
def finish (sink : Sink) (items : List Item) (requests : List Render.Request) : Outcome :=
  let table := Table.ofItems items
  match sink.result table with
  | .ok _ => ⟨0, sink.written table.text, [], requests⟩
  | .error fault => ⟨1, sink.written table.text, [faultLine fault], requests⟩

/-- A read of a window. A table is written row by row, and the rows before a fault stay; but
a bounded read hands out its fault first. -/
def readWindow (sink : Sink) (endpoint : Render.Endpoint) (client : Render.Client)
    (query : Query) : Outcome :=
  let (points, exchange) := query.run (endpoint.load client) ⟨[]⟩
  finish sink (BoundedRead.itemsOf points) exchange.answered

/-- The outcome of a run, unless its read has no end. -/
def run? (sink : Sink) (arguments : List String) (environment : Settings.Environment)
    (clock : Instant) (client : Render.Client) : Option Outcome :=
  match prepare arguments environment clock with
  | .error outcome => some outcome
  | .ok (plan, settings) =>
    plan.range.interval?.map fun window =>
      readWindow sink (endpointOf settings) client ⟨plan.target, window⟩

end MetricBridge.CommandLine
