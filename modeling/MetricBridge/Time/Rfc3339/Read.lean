/-
# Reading timestamps

Two readers share the pieces of a timestamp. The strict one takes the exact form:
a four-digit year, two digits elsewhere, `T`, `t` or a space in the middle, and `Z`,
`z` or an offset with a colon. The lax one also takes blanks between the pieces,
shorter numbers, signed years of any length, `UTC`, and blanks or nothing for the
colon of the offset. A leap second is accepted in any minute.

A reader that fails says why in one of five ways. Which of several defects is named
is part of the form: the strict reader refuses a text with fewer than nineteen bytes
before looking at it, then checks the date before the separator, the time of day after
its fraction, and the size of the offset last.
-/

import MetricBridge.Time.Calendar
import MetricBridge.Time.Instant
import MetricBridge.Decimal.Digits
import MetricBridge.Text.Blank

namespace MetricBridge.Time

/-- Why a text is no timestamp. -/
inductive TimestampError where
  | premature
  | invalid
  | trailing
  | outOfRange
  /-- The date and time of day exist, but the offset leads beyond all instants. -/
  | impossible
  deriving DecidableEq

namespace TimestampError

/-- The wording of each reason. -/
def message : TimestampError → String
  | premature => "premature end of input"
  | invalid => "input contains invalid characters"
  | trailing => "trailing input"
  | outOfRange => "input is out of range"
  | impossible => "no possible date and time matching input"

end TimestampError

namespace Rfc3339

/-- A reader of a piece: what it read and the text after it. -/
abbrev Piece (α : Type) := List Char → Except TimestampError (α × List Char)

/-- Exactly two digits. -/
def twoDigits : Piece Nat
  | a :: b :: rest =>
    if a.isDigit && b.isDigit then .ok (Decimal.value [a, b], rest) else .error .invalid
  | _ => .error .invalid

/-- Exactly four digits. -/
def fourDigits : Piece Nat
  | a :: b :: c :: d :: rest =>
    if [a, b, c, d].all Char.isDigit then .ok (Decimal.value [a, b, c, d], rest)
    else .error .invalid
  | _ => .error .invalid

/-- One given character. -/
def mark (expected : Char) : Piece Unit
  | [] => .error .premature
  | c :: rest => if c = expected then .ok ((), rest) else .error .invalid

/-- The character between date and time of day. -/
def separator : Piece Unit
  | [] => .error .premature
  | c :: rest => if c = 'T' ∨ c = 't' ∨ c = ' ' then .ok ((), rest) else .error .invalid

/-- A fraction of a second in nanoseconds, if the text starts with a point. Digits after
the ninth are read and have no effect. -/
def fraction : Piece Nat
  | '.' :: text =>
    let (digits, rest) := Decimal.spanDigits text
    if digits = [] then .error (if text = [] then .premature else .invalid)
    else
      let significant := digits.take 9
      .ok (Decimal.value significant * Nat.pow 10 (9 - significant.length), rest)
  | text => .ok (0, text)

/-- The digits of a pair that is part of an offset. A single ASCII character is too short
to be a pair; anything else that is no pair of digits is invalid. -/
def offsetPair : Piece Nat
  | [] => .error .premature
  | [c] => .error (if c.toNat < 0x80 then .premature else .invalid)
  | text => twoDigits text

/-- The offset in seconds; `colon` reads what stands between hours and minutes. -/
def offset (colon : Piece Unit) : Piece Int
  | [] => .error .premature
  | c :: rest =>
    if c = 'Z' ∨ c = 'z' then .ok (0, rest)
    else if c = '+' ∨ c = '-' ∨ c = '\u2212' then do
      let (hours, afterHours) ← offsetPair rest
      let ((), afterColon) ← colon afterHours
      let (minutes, afterMinutes) ← offsetPair afterColon
      if 60 ≤ minutes then .error .outOfRange
      else
        let seconds : Int := hours * 3600 + minutes * 60
        .ok (if c = '+' then seconds else -seconds, afterMinutes)
    else .error .invalid

/-- The seconds since the start of the day and the nanoseconds into the last of them. Second
60 is the leap second after `:59`. -/
def timeOfDay? (hour minute second nano : Nat) : Option (Nat × Nat) :=
  if hour < 24 ∧ minute < 60 ∧ second ≤ 60 then
    if second = 60 then some (hour * 3600 + minute * 60 + 59, nano + 1000000000)
    else some (hour * 3600 + minute * 60 + second, nano)
  else none

/-- The greatest offset either way, in seconds, is below a day. -/
def isOffset (seconds : Int) : Bool :=
  -86400 < seconds && seconds < 86400

/-- The instant of a date and time of day at an offset from UTC. The date and time of day
have to be within the range of instants both before and after the offset is applied. -/
def assemble (date : Date) (secondOfDay nano : Nat) (offsetSeconds : Int) :
    Except TimestampError Instant :=
  let onTheSpot := date.toDay * 86400 + secondOfDay
  if isOffset offsetSeconds ∧ (Instant.ofParts? onTheSpot nano).isSome then
    match Instant.ofParts? (onTheSpot - offsetSeconds) nano with
    | some instant => .ok instant
    | none => .error .impossible
  else .error .outOfRange

/-- A timestamp in the exact form. -/
def readStrict (text : List Char) : Except TimestampError Instant := do
  if (String.ofList text).utf8ByteSize < 19 then .error .premature
  else
    let (year, text) ← fourDigits text
    let ((), text) ← mark '-' text
    let (month, text) ← twoDigits text
    let ((), text) ← mark '-' text
    let (day, text) ← twoDigits text
    let date : Date := ⟨year, month, day⟩
    if !date.isValid then .error .outOfRange
    else
      let ((), text) ← separator text
      let (hour, text) ← twoDigits text
      let ((), text) ← mark ':' text
      let (minute, text) ← twoDigits text
      let ((), text) ← mark ':' text
      let (second, text) ← twoDigits text
      let (nano, text) ← fraction text
      match timeOfDay? hour minute second nano with
      | none => .error .outOfRange
      | some (secondOfDay, nano) =>
        let (offsetSeconds, text) ← offset (mark ':') text
        if text ≠ [] then .error .trailing
        else assemble date secondOfDay nano offsetSeconds

/-- A number of at least one and at most `width` digits, blanks before it skipped. -/
def number (width : Nat) (text : List Char) : Except TimestampError (Nat × List Char) :=
  let text := Text.trimStart text
  let digits := (Decimal.spanDigits text).1.take width
  if digits = [] then .error (if text = [] then .premature else .invalid)
  else .ok (Decimal.value digits, text.drop digits.length)

/-- A number as above that has to lie between two bounds. -/
def numberBetween (least greatest width : Nat) : Piece Nat := fun text => do
  let (value, rest) ← number width text
  if least ≤ value ∧ value ≤ greatest then .ok (value, rest) else .error .outOfRange

/-- A year: up to four digits, or a sign and any number of digits. -/
def year : Piece Int := fun text =>
  let bound (value : Int) (rest : List Char) : Except TimestampError (Int × List Char) :=
    if -2147483648 ≤ value ∧ value ≤ 2147483647 then .ok (value, rest)
    else .error .outOfRange
  let signed (rest : List Char) : Except TimestampError (Nat × List Char) :=
    let (digits, after) := Decimal.spanDigits rest
    if digits = [] then .error (if rest = [] then .premature else .invalid)
    else .ok (Decimal.value digits, after)
  match Text.trimStart text with
  | '-' :: rest => do
    let (value, after) ← signed rest
    bound (-value) after
  | '+' :: rest => do
    let (value, after) ← signed rest
    bound value after
  | rest => do
    let (value, after) ← number 4 rest
    bound value after

/-- A given character with blanks before it skipped. -/
def spacedMark (expected : Char) : Piece Unit := fun text =>
  mark expected (Text.trimStart text)

/-- Any number of colons and blanks. -/
def colonOrBlanks : Piece Unit := fun text =>
  .ok ((), text.dropWhile fun c => c = ':' || Text.isBlank c)

/-- The offset of the lax form: `UTC` in any letter case, or an offset. -/
def laxOffset : Piece Int
  | text@(a :: b :: c :: rest) =>
    if [a, b, c].map Char.toLower = ['u', 't', 'c'] then .ok (0, rest)
    else offset colonOrBlanks text
  | text => offset colonOrBlanks text

/-- A timestamp in the lax form. -/
def readLax (text : List Char) : Except TimestampError Instant := do
  let (year, text) ← year text
  let ((), text) ← spacedMark '-' text
  let (month, text) ← numberBetween 1 12 2 text
  let ((), text) ← spacedMark '-' text
  let (day, text) ← numberBetween 1 31 2 text
  let ((), text) ← separator text
  let (hour, text) ← numberBetween 0 23 2 text
  let ((), text) ← spacedMark ':' text
  let (minute, text) ← numberBetween 0 59 2 text
  let ((), text) ← spacedMark ':' text
  let (second, text) ← numberBetween 0 60 2 text
  let (nano, text) ← fraction text
  let (offsetSeconds, text) ← laxOffset (Text.trimStart text)
  if Text.trimStart text ≠ [] then .error .trailing
  else
    let date : Date := ⟨year, month, day⟩
    if !date.isValid then .error .outOfRange
    else
      match timeOfDay? hour minute second nano with
      | none => .error .outOfRange
      | some (secondOfDay, nano) => assemble date secondOfDay nano offsetSeconds

end Rfc3339

end MetricBridge.Time
