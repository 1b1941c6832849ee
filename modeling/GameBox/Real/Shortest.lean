import GameBox.Real.Binary32
import GameBox.Text.Digits

/-!
# The shortest decimals of a real

A finite real is written with the fewest decimal digits that read back as the same real, and
among those with the ones nearest to its value.  The reals that a decimal may stand for are the
ones between the midpoints to the two neighbours; a midpoint belongs to them when the mantissa is
even.

* `Binary32.shortest`: digits and exponent, for either way of breaking a tie.
* `Binary32.positional`: the digits written out around a decimal point, never with an exponent.
* `Binary32.literal`: the form of a number inside JSON, with a point or an exponent.
-/

namespace GameBox
namespace Binary32

/-- Where a value exactly between two equally short decimals goes. -/
inductive Tie where
  | up
  | even
  deriving DecidableEq

/-- The number `digits * 10 ^ exponent`. -/
structure Decimal where
  digits : Nat
  exponent : Int
  deriving Repr, DecidableEq

/-- The interval of values that read back as one real, in quarters of the unit of its mantissa. -/
structure Interval where
  low : Nat
  value : Nat
  high : Nat
  closed : Bool

/-- The values that read back as the given magnitude.  Below a power of two the neighbour is only
half a unit away. -/
def interval (x : Parts) : Interval where
  low := if x.mantissa = hiddenBit ∧ 0 < x.power then 4 * x.mantissa - 1 else 4 * x.mantissa - 2
  value := 4 * x.mantissa
  high := 4 * x.mantissa + 2
  closed := x.mantissa % 2 = 0

/-- The decimal nearest to the value among the multiples of `10 ^ exponent` that lie in the
interval of a magnitude. -/
def onGrid? (tie : Tie) (x : Parts) (exponent : Int) : Option Decimal :=
  let range := interval x
  -- `c * 10 ^ exponent` against `t * 2 ^ (power - 151)` is `c * grid` against `t * unit`.
  let grid := Nat.pow 10 exponent.toNat <<< (151 - x.power)
  let unit := Nat.pow 10 (-exponent).toNat <<< (x.power - 151)
  let below := range.value * unit / grid
  let above := below + 1
  let inside (c : Nat) : Bool :=
    if range.closed then range.low * unit ≤ c * grid && c * grid ≤ range.high * unit
    else range.low * unit < c * grid && c * grid < range.high * unit
  let down := range.value * unit - below * grid
  let up := above * grid - range.value * unit
  let upwards := up < down || (up = down && (tie = .up || below % 2 = 1))
  match inside below, inside above with
  | true, true => some ⟨if upwards then above else below, exponent⟩
  | true, false => some ⟨below, exponent⟩
  | false, true => some ⟨above, exponent⟩
  | false, false => none

/-- The exponent of the first decimal digit of a positive magnitude. -/
def leadingExponent (x : Parts) : Int :=
  let scaled := (x.mantissa * Nat.pow 10 60) <<< (x.power - 149) >>> (149 - x.power)
  ((Nat.toDigits 10 scaled).length : Int) - 61

/-- Takes zeros off the end of the digits. -/
def dropZeros : (fuel : Nat) → Decimal → Decimal
  | 0, d => d
  | fuel + 1, d =>
    if d.digits ≠ 0 ∧ d.digits % 10 = 0 then dropZeros fuel ⟨d.digits / 10, d.exponent + 1⟩ else d

/-- The shortest decimal of a positive finite magnitude: the first grid that meets the interval
wins.  Nine digits always suffice. -/
def shortest (tie : Tie) (x : Parts) : Decimal :=
  let lead := leadingExponent x
  match (List.range 9).findSome? fun (places : Nat) => onGrid? tie x (lead - places) with
  | some d => dropZeros 10 d
  | none => ⟨0, 0⟩

/-! ## Writing -/

/-- A minus sign for a real with the sign bit. -/
def signText (x : Binary32) : String :=
  if x.isNegative then "-" else ""

/-- The digits of a decimal around its point; a whole number is followed by `whole`. -/
def aroundPoint (whole : String) (d : Decimal) : String :=
  let digits := Nat.toDigits 10 d.digits
  if 0 ≤ d.exponent then
    String.ofList (digits ++ List.replicate d.exponent.toNat '0') ++ whole
  else
    let places := d.exponent.natAbs
    let digits := Text.fillLeft '0' (places + 1) digits
    let point := digits.length - places
    String.ofList (digits.take point ++ '.' :: digits.drop point)

/-- A real for a reader: its shortest digits around a point, and nothing after a whole number. -/
def positional (x : Binary32) : String :=
  if x.isNaN then "NaN"
  else if x.isInfinite then x.signText ++ "inf"
  else if x.isZero then x.signText ++ "0"
  else x.signText ++ aroundPoint "" (shortest .up (parts x.magnitude))

/-- A finite real as a JSON number: around a point as long as there are at most thirteen digits
before it, or at most five zeros between it and the first digit, and otherwise with an exponent,
which has a sign. -/
def literal (x : Binary32) : String :=
  if x.isZero then x.signText ++ "0.0"
  else
    let d := shortest .even (parts x.magnitude)
    let digits := Nat.toDigits 10 d.digits
    let point : Int := digits.length + d.exponent
    if -5 ≤ point ∧ point ≤ 13 then x.signText ++ aroundPoint ".0" d
    else
      let fraction := if digits.length = 1 then [] else '.' :: digits.drop 1
      let sign := if 0 < point then "+" else ""
      x.signText ++ String.ofList (digits.take 1 ++ fraction) ++ "e" ++ sign ++
        Text.integer (point - 1)

end Binary32
end GameBox
