/-
# The range of a read

Options are resolved against a clock into a range. Everything in a range is a whole
second, for the store keeps nothing finer: the clock is cut to the second first, then
the moments are. A look-back of a duration is the same as a start that long ago.

A range without an end is live. It always has a start, which is now if none was given;
a bounded range may do without one.
-/

import MetricBridge.Time.Rfc3339
import MetricBridge.Window.Interval
import MetricBridge.Window.Options

namespace MetricBridge

open Time (Instant Duration)

/-- Where a range ends. -/
inductive RangeEnd where
  | bounded (stop : Instant)
  | live
  deriving DecidableEq

/-- The time that a read covers, its start left out. -/
structure Range where
  start : Option Instant
  stop : RangeEnd
  deriving DecidableEq

namespace Range

/-- The range has no end. -/
def isLive (range : Range) : Bool :=
  range.stop = .live

/-- The window of a bounded range. -/
def interval? (range : Range) : Option Interval :=
  match range.stop with
  | .bounded stop => some ⟨range.start, stop⟩
  | .live => none

end Range

namespace Window

/-- The whole second a duration before another instant, as the value of an option. -/
def secondBefore (option : String) (now : Instant) (duration : Duration) :
    Except Fault Instant :=
  match now.sub? duration with
  | some instant => .ok instant.truncate
  | none => .error (.invalidOption option "time out of range")

/-- The whole second of the start. -/
def startOf (now : Instant) : Moment → Except Fault Instant
  | .now => .ok now
  | .endless =>
    .error (.invalidOption ReadOptions.startName ":end: is only valid for -to")
  | .fixed instant => .ok instant.truncate
  | .ago duration => secondBefore ReadOptions.startName now duration

/-- The whole second of the end, unless there is none. -/
def stopOf (now : Instant) : Moment → Except Fault RangeEnd
  | .now => .ok (.bounded now)
  | .endless => .ok .live
  | .fixed instant => .ok (.bounded instant.truncate)
  | .ago duration => (secondBefore ReadOptions.stopName now duration).map RangeEnd.bounded

/-- The range of a look-back from a whole second. -/
def lookBackRange (now : Instant) (duration : Duration) : Except Fault Range :=
  if duration.isPositive then
    (secondBefore ReadOptions.lookBackName now duration).map fun start =>
      ⟨some start, .bounded now⟩
  else .error (.invalidOption ReadOptions.lookBackName "duration must be positive")

/-- The range from a start to an end, which has to be in this order. -/
def rangeBetween (now : Instant) (start : Option Instant) : RangeEnd → Except Fault Range
  | .live => .ok ⟨some (start.getD now), .live⟩
  | .bounded stop =>
    match start with
    | none => .ok ⟨none, .bounded stop⟩
    | some start =>
      if stop < start then
        .error (.invalidTimeRange (String.ofList start.offsetText)
          (String.ofList stop.offsetText))
      else .ok ⟨some start, .bounded stop⟩

/-- The range from a start to an end; the end is now if it is not given. -/
def boundsRange (now : Instant) (start stop : Option Moment) : Except Fault Range := do
  let start ← start.mapM (startOf now)
  let stop ← stopOf now (stop.getD .now)
  rangeBetween now start stop

end Window

namespace ReadOptions

/-- The range that the options say when the clock shows a time. -/
def resolve (options : ReadOptions) (clock : Instant) : Except Fault Range :=
  let now := clock.truncate
  match options with
  | ⟨.none, .none, .none⟩ => .error .missingTimeRange
  | ⟨.none, .none, some lookBack⟩ => Window.lookBackRange now lookBack
  | ⟨_, _, some _⟩ => .error .conflictingTimeRange
  | ⟨start, stop, .none⟩ => Window.boundsRange now start stop

end ReadOptions

end MetricBridge
