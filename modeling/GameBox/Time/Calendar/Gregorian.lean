import GameBox.Text.Digits.Grammar
import GameBox.Time.Calendar

/-!
# The Gregorian calendar, day by day

The calendar is a rule for going on from a day to the next one: how long the months are, and which
years have a leap day.  Which date a day has follows from this rule and from one day whose date is
known, in both directions of time and without any count of the years between.

* `Calendar.IsLeap`, `Calendar.monthDays`: leap years and the lengths of months.
* `Calendar.Date.next`, `Calendar.Date.IsDay`: the next day, and the days since 1970.
* `Calendar.Moment.IsInstant`: the instant that a moment is.
* `Calendar.IsShown`: the instants that have a text.
* `Calendar.Moment.Spells`: the texts of a moment.
* `Calendar.Chronology.IsLawful`: what is asked of a chronology.
-/

namespace GameBox
namespace Calendar

open Text (IsNumber IsPlace)

/-- Every fourth year is a leap year, of the full centuries only every fourth. -/
def IsLeap (year : Int) : Prop := 4 ∣ year ∧ (100 ∣ year → 400 ∣ year)

instance (year : Int) : Decidable (IsLeap year) := inferInstanceAs (Decidable (_ ∧ _))

/-- The days of a month. -/
def monthDays (year : Int) (month : Nat) : Nat :=
  if month = 2 then if IsLeap year then 29 else 28
  else if month ∈ [4, 6, 9, 11] then 30
  else 31

namespace Date

/-- A date that there is in the calendar. -/
structure IsValid (date : Date) : Prop where
  month_pos : 0 < date.month
  month_le : date.month ≤ 12
  day_pos : 0 < date.day
  day_le : date.day ≤ monthDays date.year date.month

/-- The date of the next day. -/
def next (date : Date) : Date :=
  if date.day < monthDays date.year date.month then { date with day := date.day + 1 }
  else if date.month < 12 then ⟨date.year, date.month + 1, 1⟩
  else ⟨date.year + 1, 1, 1⟩

/-- The day of a date, counted from the start of 1970: the calendar goes on from this day, and goes
back from it to every date that it goes on from. -/
inductive IsDay : Date → Int → Prop
  | epoch : IsDay ⟨1970, 1, 1⟩ 0
  | next {date : Date} {days : Int} (h : IsDay date days) : IsDay date.next (days + 1)
  | previous {date : Date} {days : Int} (hdate : date.IsValid) (h : IsDay date.next days) :
    IsDay date (days - 1)

end Date

namespace Moment

/-- The instant of a moment, in seconds since the start of 1970. -/
structure IsInstant (m : Moment) (seconds : Int) : Prop where
  hour_lt : m.hour < 24
  minute_lt : m.minute < 60
  second_lt : m.second < 60
  exists_days : ∃ days, m.date.IsDay days ∧
    seconds = ((days * 24 + m.hour) * 60 + m.minute) * 60 + m.second

end Moment

/-- The instants of the years that can be shown. -/
def IsShown (seconds : Int) : Prop :=
  ∃ m : Moment, m.IsInstant seconds ∧ -262143 ≤ m.date.year ∧ m.date.year ≤ 262142

/-- The texts of a year: four digits, or a sign and at least four digits. -/
inductive IsYear : List Char → Int → Prop
  | plain {digits : List Char} {n : Nat} (h : IsPlace 4 digits n) : IsYear digits n
  | later {digits : List Char} {n : Nat} (h : IsNumber 4 digits n) (hn : 9999 < n) :
    IsYear ('+' :: digits) n
  | earlier {digits : List Char} {n : Nat} (h : IsNumber 4 digits n) (hn : 0 < n) :
    IsYear ('-' :: digits) (-n)

/-- The texts of a moment: `YYYY-MM-DD hh:mm:ss`. -/
inductive Moment.Spells : Moment → List Char → Prop
  | intro {y mo d h mi s : List Char} {year : Int} {month day hour minute second : Nat}
    (hy : IsYear y year) (hmo : IsPlace 2 mo month) (hd : IsPlace 2 d day) (hh : IsPlace 2 h hour)
    (hmi : IsPlace 2 mi minute) (hs : IsPlace 2 s second) :
    Spells ⟨⟨year, month, day⟩, hour, minute, second⟩
      (y ++ '-' :: (mo ++ '-' :: (d ++ ' ' :: (h ++ ':' :: (mi ++ ':' :: s)))))

/-- What is asked of a chronology: it takes apart the instants that are shown and no others, a
moment is the instant that it was made from, and its text shows it. -/
structure Chronology.IsLawful (chronology : Chronology) : Prop where
  isSome_iff : ∀ seconds, (chronology.moment? seconds).isSome = true ↔ IsShown seconds
  isInstant : ∀ seconds m, chronology.moment? seconds = some m → m.IsInstant seconds
  spells : ∀ seconds m, chronology.moment? seconds = some m → m.Spells (chronology.text m).toList

end Calendar
end GameBox
