import GameBox.Text.Digits

/-!
# Numbers inside a text

A text that shows several numbers shows each as a run of decimal digits, and the runs are kept apart
by characters that are no digits.  Here the runs are described by what they denote, without the
function that writes them.

* `Text.Denotes`: digits and the number that they denote.
* `Text.IsPlace`, `Text.IsNumber`: numbers of a fixed width, and of a least width.
-/

namespace GameBox
namespace Text

/-- Decimal digits, at least one of them, and the number that they denote. -/
structure Denotes (digits : List Char) (n : Nat) : Prop where
  ne_nil : digits ≠ []
  forall_mem : ∀ c ∈ digits, c.isDigit = true
  value : Nat.ofDigitChars 10 digits 0 = n

/-- A number that takes a fixed number of digits, whatever it is. -/
structure IsPlace (width : Nat) (digits : List Char) (n : Nat) : Prop extends Denotes digits n where
  length_eq : digits.length = width

/-- A number that takes no fewer digits than its width; only zeros that bring it to this width stand
before it. -/
structure IsNumber (width : Nat) (digits : List Char) (n : Nat) : Prop
    extends Denotes digits n where
  le_length : width ≤ digits.length
  head_ne : width < digits.length → digits.head? ≠ some '0'

end Text
end GameBox
