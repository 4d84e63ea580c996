/-!
# Dates and moments

A date is a day of the calendar, and a moment is a date with a time of the day, which may say how far its
clock is ahead of universal time. Moments with such an offset are the same if they are one point in time,
other ones if they read the same.

* `Date.make` and `Moment.make` refuse what is in no calendar, and say the first thing that is wrong with it.
* `Date.text` and `Moment.text` are the forms in which messages show them.
-/

namespace GoFixtures

/-- Parts of a text with commas between them. -/
def commaSeparated (parts : List String) : String := ", ".intercalate parts

/-- A length of time in minutes, as messages show it: in days and in seconds of a day. -/
def durationText (minutes : Int) : String :=
  let part (name : String) (n : Int) : List String := if n = 0 then [] else [name ++ "=" ++ toString n]
  let parts := part "days" (minutes.fdiv 1440) ++ part "seconds" (minutes.fmod 1440 * 60)
  "datetime.timedelta(" ++ (if parts.isEmpty then "0" else commaSeparated parts) ++ ")"

/-- What keeps numbers from being a date or a moment. -/
inductive CalendarFault
  | year (number : Nat)
  | month
  | day
  | hour
  | minute
  | second
  | offset (minutes : Int)
deriving DecidableEq

namespace CalendarFault

/-- The fault in words. -/
def message : CalendarFault → String
  | year n => "year " ++ toString n ++ " is out of range"
  | month => "month must be in 1..12"
  | day => "day is out of range for month"
  | hour => "hour must be in 0..23"
  | minute => "minute must be in 0..59"
  | second => "second must be in 0..59"
  | offset minutes =>
    "offset must be a timedelta strictly between -timedelta(hours=24) and timedelta(hours=24), not "
      ++ durationText minutes ++ "."

end CalendarFault

/-- A day of the calendar. -/
structure Date where
  year : Nat
  month : Nat
  day : Nat
deriving DecidableEq

namespace Date

/-- Whether a year has a day more than others. -/
def isLeap (year : Nat) : Bool := year % 4 = 0 && (year % 100 ≠ 0 || year % 400 = 0)

/-- How many days a month has. -/
def daysIn (year month : Nat) : Nat :=
  if month = 2 then if isLeap year then 29 else 28
  else if month = 4 || month = 6 || month = 9 || month = 11 then 30
  else 31

/-- The date of the given numbers. -/
def make (year month day : Nat) : Except CalendarFault Date :=
  if year = 0 || 9999 < year then .error (.year year)
  else if month = 0 || 12 < month then .error .month
  else if day = 0 || daysIn year month < day then .error .day
  else .ok ⟨year, month, day⟩

/-- How many days lie before the date, counted from the beginning of the first year. -/
def daysBefore (d : Date) : Nat :=
  let years := d.year - 1
  let inYear := (List.range (d.month - 1)).foldl (fun n m => n + daysIn d.year (m + 1)) (d.day - 1)
  365 * years + years / 4 - years / 100 + years / 400 + inYear

/-- The numbers of the date. -/
def numbers (d : Date) : List Nat := [d.year, d.month, d.day]

/-- The date as messages show it. -/
def text (d : Date) : String := "datetime.date(" ++ commaSeparated (d.numbers.map toString) ++ ")"

end Date

/-- A time of a day; the offset is in minutes. -/
structure Moment where
  date : Date
  hour : Nat
  minute : Nat
  second : Nat
  microsecond : Nat
  offset : Option Int
deriving DecidableEq

namespace Moment

/-- The moment of the given numbers. The offset has to be less than a day, and is looked at first. -/
def make (year month day hour minute second microsecond : Nat) (offset : Option Int) :
    Except CalendarFault Moment := do
  if let some minutes := offset then
    if 1440 ≤ minutes.natAbs then throw (.offset minutes)
  let date ← Date.make year month day
  if 23 < hour then throw .hour
  else if 59 < minute then throw .minute
  else if 59 < second then throw .second
  else return ⟨date, hour, minute, second, microsecond, offset⟩

/-- The point in time of a moment with the given offset, in microseconds from the beginning of the first year. -/
def instant (m : Moment) (offset : Int) : Int :=
  let minutes : Int := (m.date.daysBefore * 24 + m.hour : Nat) * 60 + m.minute - offset
  (minutes * 60 + m.second) * 1000000 + m.microsecond

/-- Whether two moments are the same. -/
def isSame (a b : Moment) : Bool :=
  match a.offset, b.offset with
  | some x, some y => a.instant x = b.instant y
  | none, none => a = b
  | _, _ => false

/-- An offset as messages show it. -/
def offsetText (minutes : Int) : String :=
  if minutes = 0 then "datetime.timezone.utc" else "datetime.timezone(" ++ durationText minutes ++ ")"

/-- The moment as messages show it. Seconds and their fraction are left out where they are zero. -/
def text (m : Moment) : String :=
  let clock :=
    if m.microsecond ≠ 0 then [m.hour, m.minute, m.second, m.microsecond]
    else if m.second ≠ 0 then [m.hour, m.minute, m.second]
    else [m.hour, m.minute]
  let zone := match m.offset with
    | some minutes => ["tzinfo=" ++ offsetText minutes]
    | none => []
  "datetime.datetime(" ++ commaSeparated ((m.date.numbers ++ clock).map toString ++ zone) ++ ")"

end Moment

end GoFixtures
