import GameBox.Text.Digits

/-!
# Race times

A race time is a count of milliseconds.  It is written as minutes, seconds and milliseconds, with
the hours before them from one hour on, and with zeros where a place has a fixed width.  A
negative count means that there is no time.

* `RaceTime.Clock`, `RaceTime.clock`: the places of a time.
* `RaceTime.format`, `RaceTime.annotate`: the text of a time, alone or behind its number.
-/

namespace GameBox
namespace RaceTime

/-- A time of day without a day. -/
structure Clock where
  hours : Nat
  minutes : Nat
  seconds : Nat
  millis : Nat
  deriving DecidableEq, Repr

/-- The places of a count of milliseconds. -/
def clock (millis : Nat) : Clock where
  hours := millis / 3600000
  minutes := millis / 60000 % 60
  seconds := millis / 1000 % 60
  millis := millis % 1000

/-- The count of milliseconds that the places denote. -/
def Clock.total (c : Clock) : Nat :=
  ((c.hours * 60 + c.minutes) * 60 + c.seconds) * 1000 + c.millis

/-- What stands for no time. -/
def noTime : String := "-:--.---"

/-- The text of the places of a time. -/
def Clock.format (c : Clock) : String :=
  let tail := Text.decimal 2 c.seconds ++ "." ++ Text.decimal 3 c.millis
  if 0 < c.hours then
    Text.decimal 1 c.hours ++ ":" ++ Text.decimal 2 c.minutes ++ ":" ++ tail
  else Text.decimal 1 c.minutes ++ ":" ++ tail

/-- The text of a race time in milliseconds. -/
def format (millis : Int) : String :=
  if millis < 0 then noTime else (clock millis.toNat).format

/-- A word, and in parentheses the time it stands for.  The word is read as a signed number, so
that its upper half stands for no time. -/
def annotate (millis : UInt32) : String :=
  Text.decimal 1 millis.toNat ++ " (" ++ format millis.toInt32.toInt ++ ")"

/-- The places of a time denote it. -/
@[simp] theorem total_clock (millis : Nat) : (clock millis).total = millis := by
  simp only [Clock.total, clock]
  omega

theorem minutes_clock_lt (millis : Nat) : (clock millis).minutes < 60 :=
  Nat.mod_lt _ (by decide)

theorem seconds_clock_lt (millis : Nat) : (clock millis).seconds < 60 :=
  Nat.mod_lt _ (by decide)

theorem millis_clock_lt (millis : Nat) : (clock millis).millis < 1000 :=
  Nat.mod_lt _ (by decide)

end RaceTime
end GameBox
