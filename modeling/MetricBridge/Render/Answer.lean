/-
# Answers to requests

A request is answered or not. An answer with a successful status has the series in its body, as
JSON; any other answer is a fault that tells its status.

How requests are made, sent and answered is not part of this library. It is given as a client: how
the hosts in URLs are named, what comes of a request, and what text an answer has. A client may
have an encoding for the text that the answer tells or that its bytes begin with, and it
may fail to have the text at all.
-/

import MetricBridge.Render.Request
import MetricBridge.Render.Status
import MetricBridge.Series.Json

namespace MetricBridge.Render

/-- What an answer brings: bytes, and what is told of their type. -/
structure Content where
  type? : Option String
  bytes : List UInt8
  deriving DecidableEq

/-- Bytes of which nothing is told. -/
instance : Coe (List UInt8) Content := ⟨fun bytes => ⟨none, bytes⟩⟩

/-- An answer as it comes in. -/
structure Answer where
  status : Nat
  content : Content
  deriving DecidableEq

/-- What becomes of requests; none where nobody answers. -/
abbrev Network := Request → Option Answer

/-- A network in which nobody answers. -/
def Network.silent : Network := fun _ => none

/-- What requests are made with. -/
structure Client where
  naming : Url.Naming
  network : Network
  /-- The text of an answer, or a complaint where there is none. -/
  text : Answer → Except String String

namespace Answer

/-- The series in an answer to a query. -/
def series (answer : Answer) (client : Client) (query : Query) : Except Fault (List Series) :=
  if isSuccess answer.status then
    match client.text answer with
    | .ok text => Series.ofBody text
    | .error complaint => .error (.transport complaint)
  else .error (.transport ("render api answered " ++ statusText answer.status ++
    " for target " ++ query.target))

end Answer

/-- What was sent and what came of it. -/
structure Exchange where
  /-- The requests that were answered, oldest first. -/
  answered : List Request
  deriving DecidableEq

namespace Endpoint

/-- The complaint about a request that nobody answers. -/
def unanswered (request : Request) : Fault :=
  .transport ("error sending request for url (" ++ String.ofList request.url.text ++ ")")

/-- Asks the endpoint. The state are the requests that were answered before. -/
def load (endpoint : Endpoint) (client : Client) : Source Exchange := fun query exchange =>
  match endpoint.request client.naming query with
  | .error fault => (.error fault, exchange)
  | .ok request =>
    match client.network request with
    | none => (.error (unanswered request), exchange)
    | some answer => (answer.series client query, ⟨exchange.answered ++ [request]⟩)

end Endpoint

end MetricBridge.Render
