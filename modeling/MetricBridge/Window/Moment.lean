/-
# Moments and durations in words

A moment is `now`, `end`, a timestamp, or a duration followed by `ago`. A duration is a
whole number and a unit, from seconds to weeks. Words may be in any letter case, except
`ago`, which is in lower case, and the whole may stand between colons.

The greatest duration is the greatest number of seconds whose milliseconds fit 63 bits.
-/

import MetricBridge.Fault
import MetricBridge.Text.Quoted
import MetricBridge.Time.Duration
import MetricBridge.Time.Rfc3339.Read

namespace MetricBridge

open Time (Instant Duration)

/-- A moment as it is written in an option. -/
inductive Moment where
  | now
  /-- No end: points are read as they come in. -/
  | endless
  | fixed (instant : Instant)
  | ago (duration : Duration)
  deriving DecidableEq

namespace Window

/-- The text without one colon in front. -/
def dropColon : List Char → List Char
  | ':' :: rest => rest
  | text => text

/-- The text without blanks around it, one colon on each side, and blanks inside these. -/
def bare (text : List Char) : List Char :=
  let inner := dropColon (Text.trim text)
  Text.trim (dropColon inner.reverse).reverse

/-- The seconds in a unit of time. -/
def unitSeconds? (unit : String) : Option Nat :=
  if unit ∈ ["s", "sec", "secs", "second", "seconds"] then some 1
  else if unit ∈ ["m", "min", "mins", "minute", "minutes"] then some 60
  else if unit ∈ ["h", "hr", "hour", "hours"] then some 3600
  else if unit ∈ ["d", "day", "days"] then some 86400
  else if unit ∈ ["w", "week", "weeks"] then some 604800
  else none

/-- The greatest number that may stand before a unit. -/
def greatestAmount : Nat := 9223372036854775807

/-- The greatest duration in seconds. -/
def greatestSeconds : Nat := 9223372036854775

/-- A text in lower case, as far as its letters are ASCII. -/
def lowered (text : List Char) : String :=
  String.ofList (text.map Char.toLower)

/-- The seconds of a duration in bare words, or why there are none. -/
def secondsOf (text : List Char) : Except String Nat :=
  let (digits, rest) := Decimal.spanDigits text
  let amount := Decimal.value digits
  if digits = [] ∨ greatestAmount < amount then .error "expected <n> <unit>"
  else
    match unitSeconds? (lowered (Text.trim rest)) with
    | none => .error "unknown unit"
    | some unit =>
      if amount * unit ≤ greatestSeconds then .ok (amount * unit)
      else .error "duration too large"

/-- The complaint about the text of an option. -/
def badText (option : String) (text : List Char) (reason : String) : Fault :=
  .invalidOption option (String.ofList (Text.quoted text) ++ ": " ++ reason)

/-- A duration in words, as the value of an option. -/
def readDuration (option : String) (text : List Char) : Except Fault Duration :=
  match secondsOf (bare text) with
  | .ok seconds => .ok (Duration.ofSeconds seconds)
  | .error reason => .error (badText option (bare text) reason)

/-- What stands before the word `ago` at the end of a text. -/
def beforeAgo? (text : List Char) : Option (List Char) :=
  match text.reverse with
  | 'o' :: 'g' :: 'a' :: rest => some rest.reverse
  | _ => none

/-- A moment in words, as the value of an option. -/
def readMoment (option : String) (text : List Char) : Except Fault Moment :=
  let words := bare text
  if lowered words = "now" then .ok .now
  else if lowered words = "end" then .ok .endless
  else
    match beforeAgo? words with
    | some duration => (readDuration option duration).map Moment.ago
    | none =>
      match Time.Rfc3339.readStrict words with
      | .ok instant => .ok (.fixed instant)
      | .error reason => .error (badText option words reason.message)

end Window

end MetricBridge
