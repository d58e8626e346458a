/-
# Records and the points they stand for

A record is a JSON object. It stands for a point if its `name` is a text that is not
empty, its `value` a number, its name free of blanks, and its `time`, if it is given and not
null, a strict timestamp or a number of seconds that is within the range of instants.
A record without a time is stamped with the time at which it is written. Times are
cut to the whole second.

The four conditions are checked in this order and the first that fails is the reason why
the record is rejected. A rejection never affects another record.
-/

import MetricBridge.Dictionary
import MetricBridge.Json.Value
import MetricBridge.Point
import MetricBridge.Text.Quoted
import MetricBridge.Time.Rfc3339.Read

namespace MetricBridge

open Time (Instant)

/-- What a write statement is given: a JSON object. -/
abbrev Record := List (String × Json.Value)

/-- Why a record is not written. -/
inductive Rejection where
  /-- A field is not there, or is nothing that could be used for it. -/
  | missingField (field : String)
  /-- The time is given but is none. -/
  | invalidTime (raw : Json.Value)
  /-- The name has blanks, which would break the line. -/
  | blankInName (name : String)

namespace Rejection

/-- The wording of a rejection. -/
def message : Rejection → String
  | missingField field => "required field \"" ++ field ++ "\" not found in data"
  | invalidTime raw => "invalid time value " ++ raw.render ++ " in data"
  | blankInName name => "field \"name\" contains whitespace: " ++ Text.quote name

end Rejection

namespace Record

/-- The name that a record gives, unless it is empty. -/
def name? (record : Record) : Option String :=
  match Dictionary.get? "name" record with
  | some (.string name) => if name = "" then none else some name
  | _ => none

/-- The value that a record gives. -/
def value? (record : Record) : Option Binary64 :=
  match Dictionary.get? "value" record with
  | some (.number value) => some value.toBinary64
  | _ => none

/-- The instant of a time that is given. -/
def instantOf? : Json.Value → Option Instant
  | .string text => (Time.Rfc3339.readStrict text.toList).toOption
  | .number seconds => seconds.toBinary64.wholePart?.bind Instant.ofSecond?
  | _ => none

/-- The time of a record that is written at an instant. -/
def time (record : Record) (emitted : Instant) : Except Rejection Instant :=
  match Dictionary.get? "time" record with
  | none | some .null => .ok emitted
  | some raw =>
    match instantOf? raw with
    | some instant => .ok instant
    | none => .error (.invalidTime raw)

/-- The point that a record stands for when it is written at an instant. -/
def point (record : Record) (emitted : Instant) : Except Rejection Point :=
  match record.name? with
  | none => .error (.missingField "name")
  | some name =>
    match record.value? with
    | none => .error (.missingField "value")
    | some value =>
      if name.toList.any Text.isBlank then .error (.blankInName name)
      else (record.time emitted).map fun time => ⟨time.truncate, name, value⟩

end Record

end MetricBridge
