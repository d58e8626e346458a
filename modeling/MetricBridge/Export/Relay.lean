/-
# Exports on two sides

An export has two sides with a queue between them. The feeder takes the items of a read one by
one and puts the points into the queue; the first fault ends its work, and nothing behind that is
looked at. The writer takes the points out of the queue and makes lines of them, below the line of
the header. The queue has a capacity, and a feeder that finds it full waits.

The lines are bytes to the device they are written to. They are collected and handed on in
pieces. How they are cut, a `Buffering` says; all that is asked of it is that no
byte is lost, doubled or moved. At the end the rest is handed on and the device is flushed.

A device may refuse a call. The writer stops at the first call that is refused, and what is in the
queue is dropped; a feeder that still holds a point then learns that nobody takes it, and stops as
well. The result of the export is told when both sides have stopped. A refused call comes first
in it, then a fault of the read.

A writer that has stopped is given up, and parts from the device with an attempt to finish
once more: what it keeps, which is the piece that was refused if one was, is handed on, and the
device is flushed. Nobody asks what becomes of these calls, and they are told apart from those
that the export makes.

Each function of a relay is one step of one side, and a step for which a side is not ready changes
nothing. Any order of steps is possible.
-/

import MetricBridge.Export.Points
import MetricBridge.Read.Bounded
import MetricBridge.Text.Utf8

namespace MetricBridge

namespace Export

/-- Where bytes are written to. A call is done or refused with a complaint, a write for all of its
bytes at once. What becomes of the bytes, also of those of a refused write, is in the state of
the device. -/
structure Device (σ : Type) where
  write : List UInt8 → σ → Option String × σ
  flush : σ → Option String × σ

/-- A call of a device, with the complaint if it was refused. -/
inductive Call where
  | write (bytes : List UInt8) (complaint : Option String)
  | flush (complaint : Option String)
  deriving DecidableEq

/-- How bytes are collected before they are handed on. -/
structure Buffering where
  /-- The pieces that are handed on when bytes are added to those kept, and what is kept then. -/
  cut (kept added : List UInt8) : List (List UInt8) × List UInt8
  cut_keeps (kept added : List UInt8) :
    (cut kept added).1.flatten ++ (cut kept added).2 = kept ++ added

/-- Nothing is handed on before the end. -/
def Buffering.whole : Buffering where
  cut kept added := ([], kept ++ added)
  cut_keeps _ _ := rfl

/-- What the writer of an export has done so far. -/
structure Progress (σ : Type) where
  device : σ
  /-- Bytes that were not handed on yet. -/
  kept : List UInt8
  /-- The number of points written. -/
  count : Nat
  /-- The calls that the export has made of the device, in order. -/
  calls : List Call
  /-- The calls that were made of it when the writer was given up. -/
  parting : List Call

namespace Progress

/-- A writer that has done nothing. -/
def start {σ : Type} (device : σ) : Progress σ :=
  ⟨device, [], 0, [], []⟩

section Steps

variable {σ : Type} (device : Device σ) (buffering : Buffering)

/-- Bytes are handed on in one call. -/
def write (bytes : List UInt8) (progress : Progress σ) : Option String × Progress σ :=
  let (complaint, state) := device.write bytes progress.device
  (complaint,
    { progress with device := state, calls := progress.calls ++ [.write bytes complaint] })

/-- Pieces are handed on one after the other, up to the first that is refused. That one is kept. -/
def handOn : List (List UInt8) → Progress σ → Option String × Progress σ
  | [], progress => (none, progress)
  | piece :: rest, progress =>
    match write device piece progress with
    | (none, progress) => handOn rest progress
    | (some complaint, progress) => (some complaint, { progress with kept := piece })

/-- The device is flushed. -/
def flush (progress : Progress σ) : Option String × Progress σ :=
  let (complaint, state) := device.flush progress.device
  (complaint, { progress with device := state, calls := progress.calls ++ [.flush complaint] })

/-- What a point adds: its line, and before the first line the header. -/
def added (point : Point) (progress : Progress σ) : List UInt8 :=
  let heading := if progress.count = 0 then Point.header.line else []
  Utf8.encode (heading ++ point.row.line)

/-- One point is written. -/
def put (point : Point) (progress : Progress σ) : Option String × Progress σ :=
  let (pieces, kept) := buffering.cut progress.kept (progress.added point)
  match handOn device pieces progress with
  | (none, progress) => (none, { progress with kept := kept, count := progress.count + 1 })
  | refused => refused

/-- The pieces that what is kept makes at the end. -/
def leftover (progress : Progress σ) : List (List UInt8) :=
  if progress.kept = [] then [] else [progress.kept]

/-- What was not handed on yet is, and the device is flushed. -/
def finish (progress : Progress σ) : Option String × Progress σ :=
  match handOn device progress.leftover progress with
  | (none, progress) => flush device { progress with kept := [] }
  | refused => refused

/-- The writer is given up: it attempts to finish, whatever that comes to. -/
def part (progress : Progress σ) : Progress σ :=
  let parted := (finish device { progress with calls := [] }).2
  { parted with calls := progress.calls, parting := parted.calls }

end Steps

end Progress

/-- What the writer comes to: the number of points, or the complaint about a call. -/
def outcomeOf {σ : Type} : Option String × Progress σ → Except Fault Nat
  | (none, progress) => .ok progress.count
  | (some complaint, _) => .error (.output complaint)

/-- The result of an export, from what the writer comes to and the fault of the read. -/
def resultOf (outcome : Except Fault Nat) (failure : Option Fault) : Except Fault Nat :=
  match outcome, failure with
  | .ok _, some fault => .error fault
  | outcome, _ => outcome

/-- What the feeder of an export is doing. -/
inductive Feeding where
  /-- It is about to take the next item. -/
  | reading (items : List Item)
  /-- It has a point that is not in the queue yet. -/
  | holding (point : Point) (items : List Item)
  /-- It does nothing any more. -/
  | stopped (failure : Option Fault)

/-- The two sides of an export. -/
inductive Side where
  | feeder
  | writer
  deriving DecidableEq

/-- An export under way. -/
structure Relay (σ : Type) where
  feeding : Feeding
  /-- The points that the writer can take, oldest first. -/
  queue : List Point
  progress : Progress σ
  /-- What the writer has come to, once it has stopped. -/
  outcome : Option (Except Fault Nat)

namespace Relay

/-- How many points the queue holds. -/
def capacity : Nat := 128

variable {σ : Type} (device : Device σ) (buffering : Buffering)

/-- An export of some items that is about to begin. -/
def start (items : List Item) (state : σ) : Relay σ :=
  ⟨.reading items, [], .start state, none⟩

/-- A step of the feeder. -/
def feed (relay : Relay σ) : Relay σ :=
  match relay.feeding with
  | .reading [] => { relay with feeding := .stopped none }
  | .reading (.error fault :: _) => { relay with feeding := .stopped (some fault) }
  | .reading (.ok point :: items) => { relay with feeding := .holding point items }
  | .holding point items =>
    if relay.outcome.isSome then { relay with feeding := .stopped none }
    else if relay.queue.length < capacity then
      { relay with feeding := .reading items, queue := relay.queue ++ [point] }
    else relay
  | .stopped _ => relay

/-- The writer stops and is given up, and nobody takes what is in the queue. -/
def stop (written : Option String × Progress σ) (relay : Relay σ) : Relay σ :=
  { relay with
    queue := []
    progress := written.2.part device
    outcome := some (outcomeOf written) }

/-- A step of the writer. It waits for points as long as the feeder has not stopped. -/
def work (relay : Relay σ) : Relay σ :=
  match relay.outcome, relay.queue, relay.feeding with
  | some _, _, _ => relay
  | none, point :: rest, _ =>
    match relay.progress.put device buffering point with
    | (none, progress) => { relay with progress, queue := rest }
    | refused => relay.stop device refused
  | none, [], .stopped _ => relay.stop device (relay.progress.finish device)
  | none, [], _ => relay

/-- A step of one of the sides. -/
def step (relay : Relay σ) : Side → Relay σ
  | .feeder => relay.feed
  | .writer => relay.work device buffering

/-- The sides take steps in some order. -/
def run (relay : Relay σ) (sides : List Side) : Relay σ :=
  sides.foldl (step device buffering) relay

/-- The result of the export, once both sides have stopped. -/
def result? (relay : Relay σ) : Option (Except Fault Nat) :=
  match relay.feeding, relay.outcome with
  | .stopped failure, some outcome => some (resultOf outcome failure)
  | _, _ => none

end Relay

end Export

/-- A sink as a device, with the bytes that it has taken. A call that does not fit is refused as a
whole. -/
def Sink.device (sink : Sink) : Export.Device (List UInt8) where
  write bytes taken :=
    if sink.capacity.all fun capacity => taken.length + bytes.length ≤ capacity then
      (none, taken ++ bytes)
    else (some sink.complaint, taken)
  flush taken := (none, taken)

end MetricBridge
