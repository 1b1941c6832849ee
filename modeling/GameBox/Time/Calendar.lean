import GameBox.Text.Digits

/-!
# Instants and the calendar

An instant is a count of seconds since the start of 1970, and is shown in the Gregorian calendar,
carried on before its introduction, at the meridian of Greenwich.  Years begin in March inside the
computation, so that the day that leap years add is the last one of its year; eras are the 400
years after which the calendar repeats itself.

* `Calendar.Date`, `Calendar.ofDays`, `Calendar.toDays`: dates and counts of days since 1970.
* `Calendar.Moment`, `Calendar.momentOf`: a second of a day, and the moment of an instant.
* `Calendar.Chronology`: instants as moments, and moments as texts, in any calendar.
* `Calendar.format?`: the text of an instant in the Gregorian calendar, if its year is in range.
* `FileTime.toSeconds`: an instant from a count of ticks of 100 ns since 1601.
-/

namespace GameBox
namespace Calendar

/-- A day of the calendar: month 1 is January, and a month begins with day 1. -/
structure Date where
  year : Int
  month : Nat
  day : Nat
  deriving DecidableEq, Repr

/-- The days of an era of 400 years. -/
def eraDays : Int := 146097

/-- The days from the start of March of year 0 to the start of 1970. -/
def epochShift : Int := 719468

/-- The year of an era that a day of the era falls into, both counted from zero and from March. -/
def yearOfEra (day : Nat) : Nat :=
  (day - day / 1460 + day / 36524 - day / 146096) / 365

/-- The days of an era before one of its years. -/
def daysBeforeYear (year : Nat) : Nat :=
  365 * year + year / 4 - year / 100

/-- The month of a year that begins in March, counted from zero. -/
def monthOfYear (day : Nat) : Nat := (5 * day + 2) / 153

/-- The days of a year that begins in March before one of its months. -/
def daysBeforeMonth (month : Nat) : Nat := (153 * month + 2) / 5

/-- The date of a day, counted from the start of 1970. -/
def ofDays (days : Int) : Date :=
  let shifted := days + epochShift
  let era := shifted / eraDays
  let day := (shifted % eraDays).toNat
  let year := yearOfEra day
  let rest := day - daysBeforeYear year
  let month := monthOfYear rest
  { year := year + era * 400 + (if month < 10 then 0 else 1)
    month := if month < 10 then month + 3 else month - 9
    day := rest - daysBeforeMonth month + 1 }

/-- The day of a date, counted from the start of 1970. -/
def toDays (date : Date) : Int :=
  let year := if 2 < date.month then date.year else date.year - 1
  let month := if 2 < date.month then date.month - 3 else date.month + 9
  let ofEra := (year % 400).toNat
  year / 400 * eraDays + (daysBeforeYear ofEra + daysBeforeMonth month + (date.day - 1) : Nat)
    - epochShift

/-- The seconds of a day. -/
def daySeconds : Int := 86400

/-- The first second that can be shown: the start of the year -262143. -/
def firstSecond : Int := toDays ⟨-262143, 1, 1⟩ * daySeconds

/-- The last second that can be shown: the end of the year 262142. -/
def lastSecond : Int := (toDays ⟨262142, 12, 31⟩ + 1) * daySeconds - 1

/-- The text of a year: four digits, with a sign if they do not suffice or it is negative. -/
def formatYear (year : Int) : String :=
  if 0 ≤ year ∧ year ≤ 9999 then Text.decimal 4 year.toNat
  else (if year < 0 then "-" else "+") ++ Text.decimal 4 year.natAbs

/-! ## Moments -/

/-- A second of a day. -/
structure Moment where
  date : Date
  hour : Nat
  minute : Nat
  second : Nat
  deriving DecidableEq, Repr

/-- The moment that an instant is in the Gregorian calendar. -/
def momentOf (seconds : Int) : Moment :=
  let second := (seconds % daySeconds).toNat
  ⟨ofDays (seconds / daySeconds), second / 3600, second / 60 % 60, second % 60⟩

/-- The text of a moment. -/
def Moment.text (m : Moment) : String :=
  formatYear m.date.year ++ "-" ++ Text.decimal 2 m.date.month ++ "-" ++
    Text.decimal 2 m.date.day ++ " " ++ Text.decimal 2 m.hour ++ ":" ++ Text.decimal 2 m.minute ++
    ":" ++ Text.decimal 2 m.second

/-- A way to take instants apart, as far as it goes, and to write down the parts. -/
structure Chronology where
  moment? : Int → Option Moment
  text : Moment → String

/-- The text of an instant. -/
def Chronology.format? (chronology : Chronology) (seconds : Int) : Option String :=
  (chronology.moment? seconds).map chronology.text

/-- The Gregorian calendar, as far as it is shown. -/
def gregorian : Chronology where
  moment? seconds :=
    if firstSecond ≤ seconds ∧ seconds ≤ lastSecond then some (momentOf seconds) else none
  text := Moment.text

/-- The text of an instant in the Gregorian calendar. -/
def format? (seconds : Int) : Option String := gregorian.format? seconds

end Calendar

namespace FileTime

/-- The seconds from the start of 1601 to the start of 1970. -/
def epochSeconds : Int64 := 11644473600

/-- The ticks of a second. -/
def ticksPerSecond : UInt64 := 10000000

/-- The instant of a count of ticks; parts of a second are dropped.  The difference is taken between
words, and would wrap around if it were out of their range. -/
def toSeconds (ticks : UInt64) : Int :=
  ((ticks / ticksPerSecond).toInt64 - epochSeconds).toInt

end FileTime
end GameBox
