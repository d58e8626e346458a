/-
# The text of a table

A table whose rows have as many fields as its header is the line of the header and then the line
of each row, in order, up to the first fault. Neither is written where the fault comes
before any row, so a table that begins with a fault is an empty text.
-/

import Mathlib
import MetricBridge.Export.Points

namespace MetricBridge

namespace Export

/-- The points before the first fault. -/
def leading : List (Except Fault Point) → List Point
  | .ok point :: rest => point :: leading rest
  | _ => []

/-- The first fault, if there is one. -/
def firstFault? : List (Except Fault Point) → Option Fault
  | [] => none
  | .error fault :: _ => some fault
  | .ok _ :: rest => firstFault? rest

theorem leading_of_points (points : List Point) : leading (points.map .ok) = points := by
  induction points with
  | nil => rfl
  | cons first others ih => rw [List.map_cons, leading, ih]

theorem firstFault?_of_points (points : List Point) :
    firstFault? (points.map .ok) = none := by
  induction points with
  | nil => rfl
  | cons first others ih => rw [List.map_cons, firstFault?, ih]

end Export

namespace Point

/-- The line of the column names, and then one line a point; nothing at all for no point. -/
def sheet (points : List Point) : String :=
  if points = [] then ""
  else "time,name,value\n" ++ String.ofList (points.flatMap fun point => point.row.line)

theorem length_row (point : Point) : point.row.length = header.length := by
  rw [row, header, List.length_cons, List.length_cons, List.length_singleton]
  rfl

theorem line_header : header.line = "time,name,value\n".toList := by decide

theorem toList_sheet_cons (first : Point) (others : List Point) :
    (sheet (first :: others)).toList =
      header.line ++ ((first :: others).map row).flatMap Row.line := by
  rw [sheet, if_neg (List.cons_ne_nil _ _), String.toList_append, line_header, List.flatMap_map]
  exact congrArg (_ ++ ·) String.toList_ofList

end Point

namespace Table

open Export (leading firstFault? leading_of_points firstFault?_of_points)

/-- Points are written one by one as far as the first fault. -/
theorem below_items (items : List (Except Fault Point)) :
    below Point.header.length (items.map fun item => item.map Point.row) =
      ⟨((leading items).map Point.row).flatMap Row.line, (leading items).length, none,
        firstFault? items⟩ := by
  induction items with
  | nil => rfl
  | cons item rest ih =>
    cases item with
    | error fault => rfl
    | ok point =>
      rw [List.map_cons, Except.map, below, if_pos point.length_row, ih]
      rfl

theorem ofItems_eq (items : List (Except Fault Point)) :
    ofItems items =
      ⟨(Point.sheet (leading items)).toList, (leading items).length, none,
        firstFault? items⟩ := by
  match items with
  | [] => rfl
  | .error fault :: rest => rfl
  | .ok point :: rest =>
    -- the header is written as soon as there is a point, and before it
    have htext : ofItems (.ok point :: rest) =
        { below Point.header.length
            ((Except.ok point :: rest).map fun item => item.map Point.row) with
          text := Point.header.line ++ (below Point.header.length
            ((Except.ok point :: rest).map fun item => item.map Point.row)).text } := rfl
    rw [htext, below_items, leading, Point.toList_sheet_cons]

theorem ofItems_of_fault (fault : Fault) (rest : List (Except Fault Point)) :
    ofItems (.error fault :: rest) = ⟨[], 0, none, some fault⟩ := rfl

theorem ofItems_of_points (points : List Point) :
    ofItems (points.map .ok) = ⟨(Point.sheet points).toList, points.length, none, none⟩ := by
  rw [ofItems_eq, leading_of_points, firstFault?_of_points]

end Table

end MetricBridge
