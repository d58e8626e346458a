/-
# Series of the store and the points in them

The store answers a query with series. A datapoint is a value, or null for a bucket
without a sample, and a time in seconds. The points of an answer are its
datapoints with a value, the time cut to the whole second, ordered by time and then by name;
where both agree the order of the answer stays. Zero is a value like any other.

One datapoint whose time is no second makes the whole answer unusable. The fault
names the first such datapoint; a datapoint without a value is not looked at.
-/

import MetricBridge.Binary64.Layout
import MetricBridge.Fault
import MetricBridge.Point

namespace MetricBridge

/-- A series as the store answers it. -/
structure Series where
  target : String
  /-- Values, or none for empty buckets, with their times in seconds. -/
  datapoints : List (Option Binary64 × Binary64)
  deriving DecidableEq

namespace Series

/-- The whole second of a datapoint of a series. -/
def timeOf (target : String) (timestamp : Binary64) : Except Fault Time.Instant :=
  match timestamp.wholePart? with
  | none => .error (.malformed ("non-finite timestamp in series " ++ target))
  | some second =>
    match Time.Instant.ofSecond? second with
    | some time => .ok time
    | none =>
      let digits := String.ofList (Binary64.Layout.line.write timestamp)
      .error (.malformed
        ("timestamp " ++ digits ++ " out of range in series " ++ target))

/-- The points of some datapoints of a series, in their order. -/
def pointsOf (target : String) :
    List (Option Binary64 × Binary64) → Except Fault (List Point)
  | [] => .ok []
  | (none, _) :: rest => pointsOf target rest
  | (some value, timestamp) :: rest => do
    let time ← timeOf target timestamp
    let points ← pointsOf target rest
    .ok (⟨time, target, value⟩ :: points)

/-- The points of an answer in the order of the answer. -/
def collect : List Series → Except Fault (List Point)
  | [] => .ok []
  | series :: rest => do
    let points ← pointsOf series.target series.datapoints
    let others ← collect rest
    .ok (points ++ others)

/-- The points of an answer, ordered by time and then by name. -/
def points (answer : List Series) : Except Fault (List Point) :=
  (collect answer).map fun points => points.mergeSort Point.precedes

end Series

end MetricBridge
