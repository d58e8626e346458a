/-
# Writing timestamps

A timestamp is a date, a time of day and an offset, always the offset of UTC here.
Years from 0 to 9999 have four digits and no sign; others have a sign and at least
four digits. The fraction of a second has no digits, three, six or nine, the fewest
that are exact. A leap second is second 60.
-/

import MetricBridge.Time.Calendar
import MetricBridge.Time.Instant
import MetricBridge.Decimal.Digits

namespace MetricBridge.Time

namespace Date

/-- The year as a timestamp shows it. -/
def yearText (year : Int) : List Char :=
  if 0 ≤ year ∧ year ≤ 9999 then Decimal.padded 4 year.toNat
  else (if year < 0 then '-' else '+') :: Decimal.padded 4 year.natAbs

/-- The date as a timestamp shows it. -/
def text (date : Date) : List Char :=
  yearText date.year ++ '-' :: Decimal.padded 2 date.month ++ '-' :: Decimal.padded 2 date.day

end Date

/-- The fraction of a second, with its point, in the fewest groups of three digits. -/
def fractionText (nano : Nat) : List Char :=
  if nano = 0 then []
  else if nano % 1000000 = 0 then '.' :: Decimal.padded 3 (nano / 1000000)
  else if nano % 1000 = 0 then '.' :: Decimal.padded 6 (nano / 1000)
  else '.' :: Decimal.padded 9 nano

namespace Instant

/-- Seconds in a day without leap seconds. -/
def secondsPerDay : Int := 86400

/-- The date in UTC. -/
def date (instant : Instant) : Date :=
  Date.ofDay (instant.second / secondsPerDay)

/-- The time of day in UTC as a timestamp shows it. -/
def clockText (instant : Instant) : List Char :=
  let secondOfDay := (instant.second % secondsPerDay).toNat
  let second := secondOfDay % 60 + instant.nano / 1000000000
  Decimal.padded 2 (secondOfDay / 3600) ++
    ':' :: Decimal.padded 2 (secondOfDay / 60 % 60) ++
    ':' :: Decimal.padded 2 second ++
    fractionText (instant.nano % 1000000000)

/-- Date and time of day without an offset. -/
def localText (instant : Instant) : List Char :=
  instant.date.text ++ 'T' :: instant.clockText

/-- The timestamp with the letter for UTC. -/
def zuluText (instant : Instant) : List Char :=
  instant.localText ++ ['Z']

/-- The timestamp with a numeric offset. -/
def offsetText (instant : Instant) : List Char :=
  instant.localText ++ ['+', '0', '0', ':', '0', '0']

end Instant

end MetricBridge.Time
