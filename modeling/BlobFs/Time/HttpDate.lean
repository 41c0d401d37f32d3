import BlobFs.Text.Split
import BlobFs.Time.Calendar

/-!
# Dates in messages

A server names a moment as in `Wed, 21 Oct 2015 07:28:00 GMT`.  The day of the week may be missing;
if it is there it must be the right one.
-/

set_option autoImplicit false

namespace BlobFs.HttpDate

/-- The months by their short names. -/
def months : List String :=
  ["jan", "feb", "mar", "apr", "may", "jun", "jul", "aug", "sep", "oct", "nov", "dec"]

/-- The days of the week by their short names; the day that is counted as 0 was a Thursday. -/
def weekdays : List String :=
  ["thu", "fri", "sat", "sun", "mon", "tue", "wed"]

/-- The name in lower case, as far as it is ASCII. -/
def folded (name : String) : String :=
  String.ofList (name.toList.map Char.toLower)

/-- A number of at most so many decimal digits. -/
def number? (most : Nat) (text : String) : Option Nat :=
  if text.length ≤ most then text.toNat? else none

/-- How many days a month has. -/
def daysIn (year : Nat) (month : Nat) : Nat :=
  if month = 12 then 31 else (Calendar.dayOf year (month + 1) 1 - Calendar.dayOf year month 1).toNat

/-- The seconds since midnight that a time of day names. -/
def timeOfDay? (text : String) : Option Nat :=
  match (Text.pieces ':' text).mapM (number? 2) with
  | some [hour, minute, second] =>
    if hour < 24 ∧ minute < 60 ∧ second < 60 then some (hour * 3600 + minute * 60 + second)
    else none
  | some [hour, minute] =>
    if hour < 24 ∧ minute < 60 then some (hour * 3600 + minute * 60) else none
  | _ => none

/-- How far a zone is ahead, in seconds. -/
def zone? (text : String) : Option Int :=
  let offset (digits : List Char) : Option Int :=
    if digits.length = 4 then
      (String.ofList digits).toNat?.map fun n ↦ ((n / 100 * 3600 + n % 100 * 60 : Nat) : Int)
    else none
  match text.toList with
  | '+' :: digits => offset digits
  | '-' :: digits => (offset digits).map (- ·)
  | _ => if ["gmt", "ut", "utc", "z"].contains (folded text) then some 0 else none

/-- The date, the time and the zone after the day of the week. -/
def moment? (parts : List String) : Option (Int × Int) :=
  match parts with
  | [day, month, year, time, zone] => do
    let day ← number? 2 day
    let month ← months.findIdx? (· == folded month)
    let year ← number? 4 year
    let seconds ← timeOfDay? time
    let ahead ← zone? zone
    if 1 ≤ day ∧ day ≤ daysIn year (month + 1) then
      let date := Calendar.dayOf year (month + 1) day
      return (date, date * 86400 + seconds - ahead)
    else none
  | _ => none

/-- The day of the week that a text begins with, and what follows it. -/
def splitWeekday (text : String) : Option String × String :=
  match Text.cut? ',' text with
  | some (weekday, rest) => (some (folded weekday), rest)
  | none => (none, text)

/-- The moment that a text names, in seconds of Unix time. -/
def parse? (text : String) : Option Int :=
  let (weekday, rest) := splitWeekday text
  match moment? ((Text.pieces ' ' rest).filter (· ≠ "")) with
  | none => none
  | some (date, seconds) =>
    match weekday with
    | none => some seconds
    | some name => if weekdays[(date.fmod 7).toNat]? = some name then some seconds else none

end BlobFs.HttpDate
