import GameBox.Text.Digits.Grammar
import GameBox.Time.Race

/-!
# The texts of race times

A race time is written as `m:ss.mmm`, or as `h:mm:ss.mmm` from one hour on.  Here the two forms are
described by the places that they show, so that a text can be read without knowing how it was made.

* `RaceTime.Clock.Spells`: the texts of the places of a time.
* `RaceTime.wordTime`: the text of the time that a word stands for.
-/

namespace GameBox
namespace RaceTime

open Text (IsNumber IsPlace)

/-- The texts of the places of a time. -/
inductive Clock.Spells : Clock → List Char → Prop
  /-- A time below one hour: `m:ss.mmm`. -/
  | short {m s f : List Char} {minutes seconds millis : Nat} (hm : IsNumber 1 m minutes)
    (hs : IsPlace 2 s seconds) (hf : IsPlace 3 f millis) (hminutes : minutes < 60)
    (hseconds : seconds < 60) :
    Spells ⟨0, minutes, seconds, millis⟩ (m ++ ':' :: (s ++ '.' :: f))
  /-- A time from one hour on: `h:mm:ss.mmm`. -/
  | long {h m s f : List Char} {hours minutes seconds millis : Nat} (hh : IsNumber 1 h hours)
    (hm : IsPlace 2 m minutes) (hs : IsPlace 2 s seconds) (hf : IsPlace 3 f millis)
    (hhours : 0 < hours) (hminutes : minutes < 60) (hseconds : seconds < 60) :
    Spells ⟨hours, minutes, seconds, millis⟩ (h ++ ':' :: (m ++ ':' :: (s ++ '.' :: f)))

/-- The text of the time that a word stands for: the lower half of the words are times in
milliseconds, and the upper half stands for no time. -/
def wordTime (word : UInt32) : String :=
  if word.toNat < 0x80000000 then format word.toNat else noTime

end RaceTime
end GameBox
