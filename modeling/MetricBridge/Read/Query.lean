/-
# Asking the store once

A query is a target and a window. The store may answer with whole buckets around the
window, so the points of an answer are cut to the window here; one datapoint that cannot
be used makes all of the answer unusable, even if it lies outside. For an empty
window nothing is asked.
-/

import MetricBridge.Series
import MetricBridge.Window.Interval

namespace MetricBridge

/-- What the store is asked for. -/
structure Query where
  target : String
  window : Interval
  deriving DecidableEq

/-- Whatever answers queries: it is handed a query together with a state. -/
abbrev Source (σ : Type) := Query → σ → Except Fault (List Series) × σ

namespace Query

/-- The points of an answer that lie in the window, ordered by time and then by name. -/
def select (query : Query) (answer : Except Fault (List Series)) : Except Fault (List Point) := do
  let series ← answer
  let points ← Series.points series
  .ok (points.filter fun point => query.window.contains point.time)

/-- Asks a source, unless the window is empty. -/
def run {σ : Type} (source : Source σ) (query : Query) (state : σ) :
    Except Fault (List Point) × σ :=
  if query.window.isEmpty then (.ok [], state)
  else
    let (answer, state) := source query state
    (query.select answer, state)

end Query

end MetricBridge
