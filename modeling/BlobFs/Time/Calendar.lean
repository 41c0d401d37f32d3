/-!
# Dates of seconds

A moment is a number of seconds since the start of 1970 in UTC.  This file names its date in the
Gregorian calendar, which repeats after 400 years of 146097 days, and writes it as in
`2024-02-29T12:00:00+00:00`.
-/

set_option autoImplicit false

namespace BlobFs.Calendar

/-- A date and a time of day in UTC. -/
structure DateTime where
  year : Int
  month : Nat
  day : Nat
  hour : Nat
  minute : Nat
  second : Nat
  deriving DecidableEq

/-- The date of a day, counted from the start of 1970.  Years are taken to begin in March, so that
the leap day is the last of its year. -/
def dateOf (day : Int) : Int × Nat × Nat :=
  let shifted := day + 719468
  let era := shifted.fdiv 146097
  let dayOfEra := (shifted.fmod 146097).toNat
  let yearOfEra := (dayOfEra - dayOfEra / 1460 + dayOfEra / 36524 - dayOfEra / 146096) / 365
  let dayOfYear := dayOfEra - (365 * yearOfEra + yearOfEra / 4 - yearOfEra / 100)
  let month := (5 * dayOfYear + 2) / 153
  let monthDay := dayOfYear - (153 * month + 2) / 5 + 1
  let year := yearOfEra + era * 400
  if month < 10 then (year, month + 3, monthDay) else (year + 1, month - 9, monthDay)

/-- The number of a day, counted from the start of 1970. -/
def dayOf (year : Int) (month day : Nat) : Int :=
  let year := if month ≤ 2 then year - 1 else year
  let era := year.fdiv 400
  let yearOfEra := (year.fmod 400).toNat
  let shiftedMonth := if 2 < month then month - 3 else month + 9
  let dayOfYear := (153 * shiftedMonth + 2) / 5 + day - 1
  let dayOfEra := yearOfEra * 365 + yearOfEra / 4 - yearOfEra / 100 + dayOfYear
  era * 146097 + dayOfEra - 719468

/-- The date and time of a moment. -/
def DateTime.ofSeconds (seconds : Int) : DateTime :=
  let (year, month, day) := dateOf (seconds.fdiv 86400)
  let rest := (seconds.fmod 86400).toNat
  { year, month, day, hour := rest / 3600, minute := rest / 60 % 60, second := rest % 60 }

private def padded (width n : Nat) : String :=
  let digits := toString n
  String.ofList (List.replicate (width - digits.length) '0') ++ digits

private def yearText (year : Int) : String :=
  if 0 ≤ year ∧ year ≤ 9999 then padded 4 year.toNat
  else if 0 ≤ year then "+" ++ padded 4 year.toNat
  else "-" ++ padded 4 (-year).toNat

/-- The moment as a text of date, time and the offset of UTC. -/
def describe (seconds : Int) : String :=
  let t := DateTime.ofSeconds seconds
  yearText t.year ++ "-" ++ padded 2 t.month ++ "-" ++ padded 2 t.day ++ "T" ++
    padded 2 t.hour ++ ":" ++ padded 2 t.minute ++ ":" ++ padded 2 t.second ++ "+00:00"

end BlobFs.Calendar
