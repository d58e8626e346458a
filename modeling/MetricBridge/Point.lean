/-
# Samples

A point is one sample of one metric: when, which and how much. Points that come out
of a read are ordered by time and, within one instant, by name; names are compared
character by character by code point.
-/

import MetricBridge.Binary64.Basic
import MetricBridge.Time.Instant

namespace MetricBridge

/-- One sample of a metric. -/
structure Point where
  time : Time.Instant
  name : String
  value : Binary64
  deriving DecidableEq, Inhabited

namespace Point

/-- The first point may stand before the second one: it is earlier, or they share an instant
and its name is not the greater one. -/
def precedes (a b : Point) : Bool :=
  a.time < b.time || (a.time = b.time && a.name ≤ b.name)

end Point

end MetricBridge
