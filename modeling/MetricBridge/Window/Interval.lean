/-
# Windows of time

A window begins after an instant, which it leaves out, and goes through another one, which
it includes. The beginning may be open; the store then goes back as far as it
does by itself.
-/

import MetricBridge.Time.Instant

namespace MetricBridge

/-- The instants after `start`, if it is given, up to and including `stop`. -/
structure Interval where
  start : Option Time.Instant
  stop : Time.Instant
  deriving DecidableEq

namespace Interval

/-- The instant lies in the window. -/
def contains (interval : Interval) (time : Time.Instant) : Bool :=
  interval.start.all (fun start => start < time) && time ≤ interval.stop

/-- The window begins at its end or later, so nothing lies in it. -/
def isEmpty (interval : Interval) : Bool :=
  interval.start.any fun start => interval.stop ≤ start

end Interval

end MetricBridge
