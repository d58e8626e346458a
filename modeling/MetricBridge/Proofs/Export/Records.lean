/-
# What the records of points tell

A reader of comma-separated values finds the records of some points in their sheet. Beside the
names of the columns there is one record for each point, which tells this point: its time and its
value are read back from their fields, and its name is a field as it is.
-/

import Mathlib
import MetricBridge.Proofs.Binary64.ReadBack
import MetricBridge.Proofs.Export.Reading
import MetricBridge.Proofs.Export.Rows
import MetricBridge.Proofs.Time.Timestamps

namespace MetricBridge.Point

/-- The records of some points: nothing for no point, and otherwise the names of the columns and
then a row for each point. -/
def records (points : List Point) : List Row :=
  if points = [] then [] else ["time", "name", "value"] :: points.map row

/-- A record tells a point: from its fields the time of the point is read, if the year has four
digits, and the value, and its name is between them as it is. -/
inductive IsTold (point : Point) : Row → Prop
  | of {time value : String}
      (htime : 0 ≤ point.time.date.year ∧ point.time.date.year ≤ 9999 →
        Time.Rfc3339.readStrict time.toList = .ok point.time)
      (hvalue : Binary64.read? value.toList = some point.value) :
      point.IsTold [time, point.name, value]

theorem isTold_row (point : Point) : point.IsTold point.row := by
  constructor
  case htime =>
    rw [String.toList_ofList]
    exact Time.Rfc3339.readStrict_zuluText
  case hvalue =>
    rw [String.toList_ofList]
    exact Binary64.read?_write .cell point.value

theorem recordsOf?_sheet (points : List Point) :
    Row.recordsOf? (sheet points).toList = some (records points) := by
  cases points with
  | nil => rfl
  | cons first others =>
    have hsome : ∀ fields ∈ header :: (first :: others).map row, fields ≠ [] := by
      intro fields hmem
      rcases List.mem_cons.1 hmem with rfl | hmem
      · exact List.cons_ne_nil _ _
      · obtain ⟨point, -, rfl⟩ := List.mem_map.1 hmem
        exact List.cons_ne_nil _ _
    rw [toList_sheet_cons, ← List.flatMap_cons, Row.recordsOf?_lines hsome, records,
      if_neg (List.cons_ne_nil _ _)]
    rfl

/-- The records that a reader finds in an output tell these points, one after another: there are
none for no point, and otherwise the names of the columns stand in front. -/
inductive AreTold : (points : List Point) → (output : String) → Prop
  | none {output : String} (hread : Row.recordsOf? output.toList = some []) : AreTold [] output
  | some {first : Point} {others : List Point} {rows : List Row} {output : String}
      (hread : Row.recordsOf? output.toList = some (["time", "name", "value"] :: rows))
      (hrows : List.Forall₂ IsTold (first :: others) rows) : AreTold (first :: others) output

theorem areTold_sheet (points : List Point) : AreTold points (sheet points) := by
  have hread := recordsOf?_sheet points
  cases points with
  | nil => exact .none hread
  | cons first others =>
    refine .some hread (List.forall₂_map_right_iff.2 (List.forall₂_same.2 ?_))
    exact fun point _ => point.isTold_row

end MetricBridge.Point
