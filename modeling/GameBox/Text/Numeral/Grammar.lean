import GameBox.Text.Numeral
import Mathlib.Algebra.Order.Ring.Nat

/-!
# What numerals are

The readers of numerals go through a line from the left, and take what they can.  Here numerals are
described without a reader, by the texts that they are written as and the numbers that these denote.
That the readers agree with it is shown elsewhere.

* `Numeral.placeValue`: the number that digits denote, place by place.
* `Numeral.IsDecimal`: a line that begins with a decimal number.
* `Numeral.IsLongest`: the longest beginning of a text that a rule allows.
* `Numeral.IsMask`, `Numeral.BeginsWithBareMark`: hexadecimal masks, and texts where the mark of one
  stands without digits.
* `RealNumeral.Spells`, `Numeral.IsReal`: the texts of a real numeral.
-/

namespace GameBox
namespace Numeral

/-! ## Digits -/

/-- The number that digits denote: each one counts as often as its place says. -/
def placeValue (base : Nat) : List UInt8 → Nat
  | [] => 0
  | b :: bs => digitValue b * base ^ bs.length + placeValue base bs

/-- A text that consists of digits, and of at least one. -/
structure IsDigits (digit : UInt8 → Bool) (text : List UInt8) : Prop where
  ne_nil : text ≠ []
  forall_mem : ∀ b ∈ text, digit b = true

/-- A text that does not go on with an octet of a class. -/
def Avoids (p : UInt8 → Bool) (text : List UInt8) : Prop :=
  ∀ b ∈ text.head?, p b = false

/-- The number that a sign makes of a natural number; only a minus changes it. -/
def withSign (sign : Option UInt8) (n : Nat) : Int :=
  if sign = some 0x2D then -n else n

@[simp] theorem withSign_none (n : Nat) : withSign none n = n := rfl

@[simp] theorem withSign_plus (n : Nat) : withSign (some 0x2B) n = n := rfl

@[simp] theorem withSign_minus (n : Nat) : withSign (some 0x2D) n = -n := rfl

/-- A line that begins with a decimal number: white space, one of the signs or none, digits, and
whatever does not go on with a digit. -/
inductive IsDecimal (signs : List UInt8) : List UInt8 → Int → Prop
  | intro {space digits rest : List UInt8} {sign : Option UInt8}
    (hspace : ∀ b ∈ space, isSpace b = true) (hsign : ∀ b ∈ sign, b ∈ signs)
    (hdigits : IsDigits isDigit digits) (hrest : Avoids isDigit rest) :
    IsDecimal signs (space ++ (sign.toList ++ (digits ++ rest)))
      (withSign sign (placeValue 10 digits))

/-! ## Longest beginnings -/

/-- The longest beginning of a text that a rule allows. -/
structure IsLongest (Allowed : List UInt8 → Prop) (text piece : List UInt8) : Prop where
  begins : piece <+: text
  allowed : Allowed piece
  longest : ∀ other, other <+: text → Allowed other → other.length ≤ piece.length

/-- The marks that may stand before hexadecimal digits: `0x` and `0X`, or none. -/
def maskMarks : List (List UInt8) := [[], [0x30, 0x78], [0x30, 0x58]]

/-- The texts of a hexadecimal number. -/
inductive IsMask : List UInt8 → Nat → Prop
  | intro {mark digits : List UInt8} (hmark : mark ∈ maskMarks)
    (hdigits : IsDigits isHexDigit digits) : IsMask (mark ++ digits) (placeValue 16 digits)

/-- A text that begins with a mark and goes on without a digit. -/
def BeginsWithBareMark (text : List UInt8) : Prop :=
  ∃ mark ∈ maskMarks, mark ≠ [] ∧ ∃ rest, text = mark ++ rest ∧ Avoids isHexDigit rest

/-! ## Real numerals -/

/-- The texts of a sign, and whether it is a minus. -/
inductive IsSign : List UInt8 → Bool → Prop
  | absent : IsSign [] false
  | plus : IsSign [0x2B] false
  | minus : IsSign [0x2D] true

/-- The texts of a decimal fraction, with its digits before and behind the point. -/
inductive IsFraction : List UInt8 → List UInt8 → List UInt8 → Prop
  | whole {whole : List UInt8} (hwhole : IsDigits isDigit whole) : IsFraction whole whole []
  | point {whole fraction : List UInt8} (hwhole : IsDigits isDigit whole)
    (hfraction : ∀ b ∈ fraction, isDigit b = true) :
    IsFraction (whole ++ 0x2E :: fraction) whole fraction
  | bare {fraction : List UInt8} (hfraction : IsDigits isDigit fraction) :
    IsFraction (0x2E :: fraction) [] fraction

/-- The texts of an exponent, with its sign and digits; no text is an exponent without digits. -/
inductive IsExponent : List UInt8 → Bool → List UInt8 → Prop
  | absent : IsExponent [] false []
  | present {mark : UInt8} {sign digits : List UInt8} {negative : Bool}
    (hmark : mark = 0x65 ∨ mark = 0x45) (hsign : IsSign sign negative)
    (hdigits : IsDigits isDigit digits) : IsExponent (mark :: (sign ++ digits)) negative digits

end Numeral

/-- The texts of a real numeral. -/
inductive RealNumeral.Spells : RealNumeral → List UInt8 → Prop
  | intro {sign decimal exponent whole fraction digits : List UInt8}
    {negative exponentNegative : Bool} (hsign : Numeral.IsSign sign negative)
    (hdecimal : Numeral.IsFraction decimal whole fraction)
    (hexponent : Numeral.IsExponent exponent exponentNegative digits) :
    Spells ⟨negative, whole, fraction, exponentNegative, digits⟩ (sign ++ (decimal ++ exponent))

namespace Numeral

/-- A text of a real numeral. -/
def IsReal (text : List UInt8) : Prop := ∃ x : RealNumeral, x.Spells text

end Numeral
end GameBox
