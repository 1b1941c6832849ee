import GameBox.Text.Numeral

/-!
# Reals of 32 bits

A real is kept as its bit pattern: a sign, eight bits of exponent, 23 bits of fraction.  Nothing
here uses machine arithmetic, so what a numeral is rounded to is a statement about natural
numbers.

* `Binary32.Parts`: a finite magnitude as `mantissa * 2 ^ (power - 149)`.
* `Binary32.ofRatio`: the magnitude nearest to a quotient; a tie goes to the even mantissa, and
  what is too large becomes infinite.
* `Binary32.ofNumeral`: the real that a numeral denotes, rounded once.
-/

namespace GameBox

/-- A real of 32 bits, as its bit pattern. -/
structure Binary32 where
  bits : UInt32
  deriving DecidableEq, Repr, Inhabited

namespace Binary32

/-- The bits of an infinite magnitude, and the least that is no finite magnitude. -/
def infiniteBits : Nat := 0x7F800000

/-- The bit of the sign. -/
def signBit : Nat := 0x80000000

/-- The bit in front of the fraction, which a magnitude with an exponent does not store. -/
def hiddenBit : Nat := 0x800000

/-- A real of a sign and a magnitude. -/
def ofSign (negative : Bool) (magnitude : Nat) : Binary32 :=
  ⟨UInt32.ofNat (if negative then magnitude + signBit else magnitude)⟩

/-- Whether the sign is set. -/
def isNegative (x : Binary32) : Bool :=
  signBit ≤ x.bits.toNat

/-- The bits without the sign. -/
def magnitude (x : Binary32) : Nat :=
  x.bits.toNat % signBit

/-- Whether the bits stand for no number. -/
def isNaN (x : Binary32) : Bool :=
  infiniteBits < x.magnitude

/-- Whether the magnitude is infinite. -/
def isInfinite (x : Binary32) : Bool :=
  x.magnitude = infiniteBits

/-- Whether the magnitude is zero, of either sign. -/
def isZero (x : Binary32) : Bool :=
  x.magnitude = 0

/-- A finite magnitude `mantissa * 2 ^ (power - 149)`. -/
structure Parts where
  mantissa : Nat
  power : Nat
  deriving Repr, DecidableEq

/-- The parts of a finite magnitude, given by its bits.  The least magnitudes have no hidden bit. -/
def parts (magnitude : Nat) : Parts :=
  if magnitude < hiddenBit then ⟨magnitude, 0⟩
  else ⟨magnitude % hiddenBit + hiddenBit, magnitude / hiddenBit - 1⟩

/-! ## Rounding -/

/-- The natural number nearest to a quotient; of two the even one. -/
def roundQuotient (num den : Nat) : Nat :=
  let floor := num / den
  let twice := 2 * (num % den)
  if twice < den then floor
  else if den < twice then floor + 1
  else floor + floor % 2

/-- The exponent of a positive quotient: the integer `e` with `2 ^ e ≤ num / den < 2 ^ (e + 1)`. -/
def exponentOf (num den : Nat) : Int :=
  let guess : Int := (Nat.log2 num : Int) - Nat.log2 den
  if den <<< guess.toNat ≤ num <<< (-guess).toNat then guess else guess - 1

/-- The bits of the magnitude nearest to a positive quotient.  The mantissa counts units of
`2 ^ (power - 149)`; one that rounds up to `2 ^ 24` carries into the exponent by itself. -/
def ofRatio (num den : Nat) : Nat :=
  let power := (exponentOf num den + 126).toNat
  let mantissa := roundQuotient (num <<< (149 - power)) (den <<< (power - 149))
  min (power * hiddenBit + mantissa) infiniteBits

/-- The number of digits of an exponent that count: a digit is added only as long as the digits
before it stay below this bound, far beyond every exponent that makes a difference. -/
def exponentBound : Nat := 0x10000

/-- The exponent that digits denote. -/
def exponentValue (digits : List UInt8) : Nat :=
  digits.foldl
    (fun n b => if n < exponentBound then n * 10 + Numeral.digitValue b else n) 0

/-- The bits of the magnitude nearest to `n * 10 ^ exponent`.  Where the digits alone show that
the value is above every finite magnitude, or closer to zero than half the least one, no power is
computed. -/
def ofScaled (n : Nat) (exponent : Int) : Nat :=
  if n = 0 then 0
  else
    let places : Int := (Nat.toDigits 10 n).length + exponent
    if 40 < places then infiniteBits
    else if places < -50 then 0
    else ofRatio (n * Nat.pow 10 exponent.toNat) (Nat.pow 10 (-exponent).toNat)

/-- The real nearest to what a numeral denotes. -/
def ofNumeral (x : RealNumeral) : Binary32 :=
  let exponent : Int := exponentValue x.exponent
  let signed := if x.exponentNegative then -exponent else exponent
  ofSign x.negative
    (ofScaled (Numeral.value 10 (x.whole ++ x.fraction)) (signed - x.fraction.length))

end Binary32
end GameBox
