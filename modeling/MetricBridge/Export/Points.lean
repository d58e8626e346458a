/-
# Tables of points

The columns are the time as a timestamp, the name, and the value.
-/

import MetricBridge.Binary64.Layout
import MetricBridge.Export.Table
import MetricBridge.Point
import MetricBridge.Time.Rfc3339

namespace MetricBridge

namespace Point

/-- The row of a point. -/
def row (point : Point) : Row :=
  [String.ofList point.time.zuluText, point.name,
    String.ofList (Binary64.Layout.cell.write point.value)]

/-- The names of the columns. -/
def header : Row := ["time", "name", "value"]

end Point

/-- The table of what a read hands out. -/
def Table.ofItems (items : List (Except Fault Point)) : Table :=
  Table.ofRows (some Point.header) (items.map fun item => item.map Point.row)

end MetricBridge
