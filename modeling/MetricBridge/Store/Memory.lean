/-
# A store in memory

A store keeps one value for each name and second: a later sample for the same name and
second replaces the earlier one. It takes payloads of the line protocol and answers queries
with the series whose names fit the target; unlike a window, its answer includes the
second at which the window begins. A line that does not have three fields is refused; a field that
should be a number and is none breaks the store.

An installation is a store together with what an operator can do to it and with its logs. It can be
told to refuse payloads or queries, and to answer every query with series that
were laid down. It records the payloads that it took and all queries that reached it. Once its
store is broken, nobody who needs the store gets an answer any more.
-/

import MetricBridge.Dictionary
import MetricBridge.Ingest.Plaintext
import MetricBridge.Read.Query
import MetricBridge.Store.Glob
import MetricBridge.Text.Quoted

namespace MetricBridge

/-- The samples of each name, by second. -/
structure Store where
  series : List (String × List (Int × Binary64))
  deriving DecidableEq

namespace Store

/-- A store without samples. -/
def empty : Store := ⟨[]⟩

/-- The store with one more reading, which replaces one for the same name and second. -/
def insert (store : Store) (reading : Plaintext.Reading) : Store :=
  let samples := (Dictionary.get? reading.name store.series).getD []
  ⟨Dictionary.put reading.name (Dictionary.put reading.second reading.value samples)
    store.series⟩

/-- What becomes of the lines of a payload. -/
inductive Acceptance where
  | taken
  /-- A line does not have three fields. -/
  | refused (fault : Fault)
  /-- A field of a line is not the number that it should be. -/
  | broken
  deriving DecidableEq

/-- What becomes of a line that says nothing. -/
def unread (line : List Char) : Acceptance :=
  if (Text.pieces ' ' line).length = 3 then .broken
  else .refused (.transport ("bad line " ++ String.ofList (Text.quoted line)))

/-- The store with the readings of some lines, up to the first line that says nothing. What the
lines before that one say stays in the store. -/
def acceptLines (store : Store) : List (List Char) → Acceptance × Store
  | [] => (.taken, store)
  | line :: rest =>
    match Plaintext.reading? line with
    | some reading => acceptLines (store.insert reading) rest
    | none => (unread line, store)

/-- The store with the readings of a payload, up to its first bad line. -/
def accept (store : Store) (payload : String) : Acceptance × Store :=
  store.acceptLines (Text.lines payload.toList)

/-- The second lies between the seconds of a window, both included. -/
def covers (window : Interval) (second : Int) : Bool :=
  window.start.all (fun start => start.second ≤ second) && second ≤ window.stop.second

/-- The samples of a series in a window, as datapoints. -/
def datapoints (window : Interval) (samples : List (Int × Binary64)) :
    List (Option Binary64 × Binary64) :=
  (samples.filter fun sample => covers window sample.1).map fun (second, value) =>
    (some value, Binary64.ofInt second)

/-- The answer to a query. -/
def answer (store : Store) (query : Query) : List Series :=
  let found := store.series.filter fun entry =>
    Glob.fits query.target.toList entry.1.toList
  found.map fun (name, samples) => ⟨name, datapoints query.window samples⟩

/-- How many samples the store holds. -/
def size (store : Store) : Nat :=
  store.series.foldl (fun count entry => count + entry.2.length) 0

end Store

/-- A store with its switches and logs. -/
structure Installation where
  store : Store
  refusesPayloads : Bool
  refusesQueries : Bool
  /-- The answer to every query, if one was laid down. -/
  laidDown : Option (List Series)
  /-- The payloads that were taken, oldest first. -/
  payloads : List String
  /-- The queries that arrived, oldest first. -/
  queries : List Query
  /-- The store broke at a payload. -/
  isBroken : Bool

namespace Installation

/-- A new installation. -/
def empty : Installation :=
  ⟨Store.empty, false, false, none, [], [], false⟩

/-- What an installation says that refuses. -/
def refusal : Fault :=
  .transport "connection refused"

/-- What stands here for the answer of a broken installation. There is none: whoever asks breaks
down as well. -/
def breakdown : Fault :=
  .transport "the store is broken"

/-- Hands over a payload; a fault if it was not taken. -/
def send (payload : String) (installation : Installation) : Option Fault × Installation :=
  if installation.refusesPayloads then (some refusal, installation)
  else if installation.isBroken then (some breakdown, installation)
  else
    match installation.store.accept payload with
    | (.taken, store) =>
      (none, { installation with store, payloads := installation.payloads ++ [payload] })
    | (.refused fault, store) => (some fault, { installation with store })
    | (.broken, store) => (some breakdown, { installation with store, isBroken := true })

/-- Asks a query. -/
def load : Source Installation := fun query installation =>
  let answer : Except Fault (List Series) :=
    if installation.refusesQueries then .error refusal
    else
      match installation.laidDown with
      | some answer => .ok answer
      | none =>
        if installation.isBroken then .error breakdown
        else .ok (installation.store.answer query)
  (answer, { installation with queries := installation.queries ++ [query] })

end Installation

end MetricBridge
