/-
# Samples as JSON

A point is a structure of three slots: `time`, `name` and `value`, all required. Its text
has them in this order. The time is read in the lax form of a timestamp and
written in the strict one, so writing and reading agree though reading takes more.
-/

import MetricBridge.Json.Decode
import MetricBridge.Json.Read
import MetricBridge.Point
import MetricBridge.Time.Rfc3339
import MetricBridge.Time.Rfc3339.Read

namespace MetricBridge.Point

/-- The slots of a point that were met so far. -/
structure Draft where
  time : Option Time.Instant
  name : Option String
  value : Option Binary64

/-- A timestamp in the lax form. -/
def timeReader : Json.Reader Time.Instant :=
  Json.stringAs "an RFC 3339 formatted date and time string" fun text =>
    (Time.Rfc3339.readLax text.toList).mapError Time.TimestampError.message

/-- The slots in order. -/
def slots : List (Json.Slot Draft) :=
  [Json.Slot.required "time" timeReader (·.time) fun draft time => { draft with time },
    Json.Slot.required "name" (Json.string "a string") (·.name) fun draft name =>
      { draft with name },
    Json.Slot.required "value" Json.double (·.value) fun draft value => { draft with value }]

/-- The point, or its first slot that was not met. -/
def ofDraft (draft : Draft) : Except Json.Problem Point :=
  match draft with
  | ⟨none, _, _⟩ => .error (.missingField "time")
  | ⟨some _, none, _⟩ => .error (.missingField "name")
  | ⟨some _, some _, none⟩ => .error (.missingField "value")
  | ⟨some time, some name, some value⟩ => .ok ⟨time, name, value⟩

/-- How a point is read. -/
def shape : Json.Shape Draft Point where
  expected := "struct Point"
  expectedLength := "struct Point with 3 elements"
  slots := slots
  empty := ⟨none, none, none⟩
  finish := ofDraft

/-- Reads a text that holds one point; otherwise says what is wrong and where. -/
def ofJson (text : String) : Except String Point :=
  (Json.whole shape.reader text).mapError (Json.Flaw.report text.toList)

/-- The text of a point. A value that is not finite is written as null. -/
def toJson (point : Point) : String :=
  let time := Json.stringText (String.ofList point.time.zuluText)
  let value := Json.Number.text (.real point.value)
  String.ofList <|
    "\x7b\"time\":".toList ++ time ++ ",\"name\":".toList ++ Json.stringText point.name ++
      ",\"value\":".toList ++ value ++ ['\x7d']

end MetricBridge.Point
