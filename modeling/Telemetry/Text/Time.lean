/-!
# Times as text

A point in time is written as a date and a time of day in UTC, to the microsecond; a span of
time in the largest unit of which it has one.
-/

namespace Telemetry.Text

/-- A number with zeros in front, if it has fewer digits than wanted. -/
def padded (width n : Nat) : String :=
  let digits := Nat.toDigits 10 n
  String.ofList (List.replicate (width - digits.length) '0' ++ digits)

/-- The year, month and day that are some days after the first of March of the year zero. Years
are counted from March, so that a leap day ends one. -/
def dateOf (days : Nat) : Nat × Nat × Nat :=
  let ofEra := days % 146097
  let yearOfEra := (ofEra - ofEra / 1460 + ofEra / 36524 - ofEra / 146096) / 365
  let ofYear := ofEra - (365 * yearOfEra + yearOfEra / 4 - yearOfEra / 100)
  let month := (5 * ofYear + 2) / 153
  let day := ofYear - (153 * month + 2) / 5 + 1
  let year := yearOfEra + days / 146097 * 400
  if month < 10 then (year, month + 3, day) else (year + 1, month - 9, day)

/-- How many days lie between the first of March of the year zero and the first of January
1970. -/
def daysToEpoch : Nat := 719468

/-- A point in time, given in microseconds since 1970. -/
def instant (microseconds : Nat) : String :=
  let seconds := microseconds / 1000000
  let (year, month, day) := dateOf (seconds / 86400 + daysToEpoch)
  let ofDay := seconds % 86400
  padded 4 year ++ "-" ++ padded 2 month ++ "-" ++ padded 2 day ++ "T" ++
    padded 2 (ofDay / 3600) ++ ":" ++ padded 2 (ofDay / 60 % 60) ++ ":" ++ padded 2 (ofDay % 60) ++
    "." ++ padded 6 (microseconds % 1000000) ++ "Z"

/-- A decimal fraction of some places, without zeros at its end. -/
def fractionText (places n : Nat) : String :=
  let digits := ((padded places n).toList.reverse.dropWhile (· = '0')).reverse
  if digits.isEmpty then "" else "." ++ String.ofList digits

/-- A span of time. -/
def span (nanoseconds : Nat) : String :=
  let inUnit (size places : Nat) (unit : String) : String :=
    toString (nanoseconds / size) ++ fractionText places (nanoseconds % size) ++ unit
  if 1000000000 ≤ nanoseconds then inUnit 1000000000 9 "s"
  else if 1000000 ≤ nanoseconds then inUnit 1000000 6 "ms"
  else if 1000 ≤ nanoseconds then inUnit 1000 3 "µs"
  else toString nanoseconds ++ "ns"

end Telemetry.Text
