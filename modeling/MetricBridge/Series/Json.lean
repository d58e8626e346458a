/-
# Series as JSON

An answer is a list of series. A series is a structure of two slots: `target`, which
is required, and `datapoints`, which may be missing and then is empty. A datapoint is a
pair of a value or null and a time.
-/

import MetricBridge.Json.Decode
import MetricBridge.Series

namespace MetricBridge.Series

/-- The slots of a series that were met so far. -/
structure Draft where
  target : Option String
  datapoints : Option (List (Option Binary64 × Binary64))

/-- The slots in order. -/
def slots : List (Json.Slot Draft) :=
  [Json.Slot.required "target" (Json.string "a string") (·.target) fun draft target =>
      { draft with target },
    Json.Slot.withDefault "datapoints"
      (Json.list (Json.pair (Json.nullable Json.double) Json.double)) (·.datapoints)
      fun draft datapoints => { draft with datapoints }]

/-- The series, unless its target was not met. -/
def ofDraft (draft : Draft) : Except Json.Problem Series :=
  match draft.target with
  | none => .error (.missingField "target")
  | some target => .ok ⟨target, draft.datapoints.getD []⟩

/-- How a series is read. -/
def shape : Json.Shape Draft Series where
  expected := "struct RawSeries"
  expectedLength := "struct RawSeries with 2 elements"
  slots := slots
  empty := ⟨none, none⟩
  finish := ofDraft

/-- Reads the body of an answer. -/
def ofBody (body : String) : Except Fault (List Series) :=
  (Json.whole (Json.list shape.reader) body).mapError fun flaw =>
    .malformed (flaw.report body.toList)

end MetricBridge.Series
