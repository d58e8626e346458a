/-
# Writing a batch of records

The records of one write are checked one by one. The points of the good ones go out as
one payload, in the order of the records, if there are any; the others turn into
warnings, also in their order. When the payload could not be sent there is one error for
all of it, and the warnings are the same as if it had been sent.

Where payloads go is a parameter: a function that is handed a payload together with a
state and says whether it was taken.
-/

import MetricBridge.Fault
import MetricBridge.Ingest.Plaintext
import MetricBridge.Ingest.Record

namespace MetricBridge

open Time (Instant)

/-- The records of one write, checked. -/
structure Batch where
  points : List Point
  rejected : List Rejection

/-- What a write tells its caller. -/
structure WriteOutcome where
  warnings : List String
  errors : List String
  deriving DecidableEq

namespace WriteOutcome

/-- Nothing was lost in sending. -/
def isOk (outcome : WriteOutcome) : Bool :=
  outcome.errors.isEmpty

end WriteOutcome

namespace Batch

/-- The batch with one more record in front. -/
def add (batch : Batch) : Except Rejection Point → Batch
  | .ok point => { batch with points := point :: batch.points }
  | .error rejection => { batch with rejected := rejection :: batch.rejected }

/-- The points and rejections of records that are written at an instant. -/
def ofRecords (emitted : Instant) : List Record → Batch
  | [] => ⟨[], []⟩
  | record :: rest => (ofRecords emitted rest).add (record.point emitted)

/-- What is to be sent, if there is anything. -/
def payload? (batch : Batch) : Option String :=
  if batch.points.isEmpty then none else some (Plaintext.encode batch.points)

/-- The outcome of a batch, given the error of sending it if there was one. -/
def outcome (batch : Batch) (error : Option Fault) : WriteOutcome where
  warnings := batch.rejected.map Rejection.message
  errors := error.toList.map Fault.message

/-- Sends a batch to an endpoint. -/
def send {σ : Type} (endpoint : String → σ → Option Fault × σ) (batch : Batch) (state : σ) :
    WriteOutcome × σ :=
  match batch.payload? with
  | none => (batch.outcome none, state)
  | some payload =>
    let (error, state) := endpoint payload state
    (batch.outcome error, state)

end Batch

/-- Writes records at an instant to an endpoint. -/
def Record.writeAll {σ : Type} (endpoint : String → σ → Option Fault × σ) (emitted : Instant)
    (records : List Record) (state : σ) : WriteOutcome × σ :=
  (Batch.ofRecords emitted records).send endpoint state

end MetricBridge
