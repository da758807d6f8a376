import HostDaemon.Text.Basic

/-! # Dates of log lines

The date and time of day of a moment, given in seconds since the start of 1970 in universal time,
by the Gregorian calendar extended in both directions. -/

namespace HostDaemon.Calendar

/-- A day of the calendar. -/
structure Date where
  /-- The year; years before the year 1 are zero and negative. -/
  year : Int
  /-- The month from 1 to 12. -/
  month : Nat
  /-- The day of the month from 1. -/
  day : Nat
deriving Repr, DecidableEq

/-- The date of the day that lies `days` after the first of January 1970. Years are counted from
    March here, so that the leap day is the last of its year, in eras of 400 years, which all
    have 146097 days. -/
def dateOfDay (days : Int) : Date :=
  let shifted := days + 719468
  let era := shifted.fdiv 146097
  let dayOfEra := (shifted.fmod 146097).toNat
  let yearOfEra := (dayOfEra - dayOfEra / 1460 + dayOfEra / 36524 - dayOfEra / 146096) / 365
  let dayOfYear := dayOfEra - (365 * yearOfEra + yearOfEra / 4 - yearOfEra / 100)
  let marchMonth := (5 * dayOfYear + 2) / 153
  let day := dayOfYear - (153 * marchMonth + 2) / 5 + 1
  let month := if marchMonth < 10 then marchMonth + 3 else marchMonth - 9
  let year := (yearOfEra : Int) + era * 400 + (if month ≤ 2 then 1 else 0)
  ⟨year, month, day⟩

/-- The short English names of the months. -/
def monthNames : List String :=
  ["Jan", "Feb", "Mar", "Apr", "May", "Jun", "Jul", "Aug", "Sep", "Oct", "Nov", "Dec"]

/-- A year with at least four digits; a year outside of 0 to 9999 shows its sign. -/
def yearText (year : Int) : String :=
  if year < 0 then "-" ++ Text.padNumber 4 year.natAbs
  else if 9999 < year then "+" ++ Text.padNumber 4 year.natAbs
  else Text.padNumber 4 year.natAbs

/-- A moment as log lines show it, such as `2024-Feb-29 23:59:59`. -/
def stamp (seconds : Int) : String :=
  let date := dateOfDay (seconds.fdiv 86400)
  let time := (seconds.fmod 86400).toNat
  let two := Text.padNumber 2
  yearText date.year ++ "-" ++ monthNames.getD (date.month - 1) "" ++ "-" ++ two date.day ++ " " ++
    two (time / 3600) ++ ":" ++ two (time % 3600 / 60) ++ ":" ++ two (time % 60)

end HostDaemon.Calendar
