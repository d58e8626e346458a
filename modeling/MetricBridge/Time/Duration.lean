/-
# Lengths of time

A duration is a signed number of nanoseconds.
-/

namespace MetricBridge.Time

/-- A signed length of time. -/
structure Duration where
  nanoseconds : Int
  deriving DecidableEq

namespace Duration

/-- Nanoseconds in a second. -/
def perSecond : Int := 1000000000

/-- A whole number of seconds. -/
def ofSeconds (seconds : Int) : Duration :=
  ⟨seconds * perSecond⟩

/-- Whole seconds and the nanoseconds beyond them. -/
def ofParts (seconds : Int) (nanos : Nat) : Duration :=
  ⟨seconds * perSecond + nanos⟩

/-- The whole seconds, rounded down. -/
def seconds (duration : Duration) : Int :=
  duration.nanoseconds / perSecond

/-- The nanoseconds beyond the whole seconds. -/
def subsecond (duration : Duration) : Int :=
  duration.nanoseconds % perSecond

/-- Longer than nothing. -/
def isPositive (duration : Duration) : Bool :=
  0 < duration.nanoseconds

end Duration

end MetricBridge.Time
