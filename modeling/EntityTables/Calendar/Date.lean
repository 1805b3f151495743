/-
# EntityTables.Calendar.Date — points in time as calendar text

The proleptic Gregorian calendar: 400 years have 146097 days, and a year is counted from March, so
that the leap day is its last.

* `civil` — year, month and day of a day count; `Instant.text` — the whole text.
-/
import EntityTables.Calendar.Instant

namespace EntityTables

namespace Calendar

set_option autoImplicit false

/-- Year, month and day of a count of days since 1970. -/
def civil (days : Int) : Int × Nat × Nat :=
  let shifted := days + 719468
  let era := shifted / 146097
  let dayOfEra := (shifted % 146097).toNat
  let yearOfEra := (dayOfEra - dayOfEra / 1460 + dayOfEra / 36524 - dayOfEra / 146096) / 365
  let dayOfYear := dayOfEra - (365 * yearOfEra + yearOfEra / 4 - yearOfEra / 100)
  let marchMonth := (5 * dayOfYear + 2) / 153
  let day := dayOfYear - (153 * marchMonth + 2) / 5 + 1
  let month := if marchMonth < 10 then marchMonth + 3 else marchMonth - 9
  (yearOfEra + era * 400 + (if month ≤ 2 then 1 else 0), month, day)

/-- A number with at least so many digits. -/
def padded (width n : Nat) : String :=
  let digits := Nat.toDigits 10 n
  String.ofList (List.replicate (width - digits.length) '0' ++ digits)

/-- A year with at least four digits, and with a sign outside the years 0 to 9999. -/
def yearText (year : Int) : String :=
  if year < 0 then "-" ++ padded 4 year.natAbs
  else if year ≤ 9999 then padded 4 year.natAbs
  else "+" ++ padded 4 year.natAbs

end Calendar

/-- The point in time as `year-month-dayThour:minute:second.millisecondZ`. -/
def Instant.text (instant : Instant) : String :=
  let (year, month, day) := Calendar.civil (instant.seconds / 86400)
  let second := (instant.seconds % 86400).toNat
  let millisecond := instant.nanos / 1000000
  Calendar.yearText year ++ "-" ++ Calendar.padded 2 month ++ "-" ++ Calendar.padded 2 day ++ "T" ++
    Calendar.padded 2 (second / 3600) ++ ":" ++ Calendar.padded 2 (second / 60 % 60) ++ ":" ++
    Calendar.padded 2 (second % 60) ++ "." ++ Calendar.padded 3 millisecond ++ "Z"

end EntityTables
