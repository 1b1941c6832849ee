/-!
# Numerals at the start of a line

In a text file every field is a line, and a number is what a line begins with: white space is
skipped, the longest numeral is taken, and whatever follows it is left alone.  All rules are on
octets, and only ASCII octets take part.

* `Numeral.unsigned?`, `Numeral.signed?`, `Numeral.mask?`: decimal numbers without and with a
  sign, and hexadecimal masks.  A line without a numeral, or with one that is out of range, gives
  nothing; a value is never cut to fit.
* `Numeral.realEnd?`, `Numeral.real?`: where a real numeral ends, found by positions, and its parts,
  `RealNumeral`, to be rounded by the reader of reals.
-/

namespace GameBox

/-- The parts of a decimal fraction with an exponent: its sign, the digits before and after the
point, and the sign and digits of the exponent. -/
structure RealNumeral where
  negative : Bool
  whole : List UInt8
  fraction : List UInt8
  exponentNegative : Bool
  exponent : List UInt8
  deriving Repr, DecidableEq

namespace Numeral

/-- Space, tab, line feed, form feed and carriage return; the vertical tab is not white space. -/
def isSpace (b : UInt8) : Bool :=
  b = 0x20 || b = 0x09 || b = 0x0A || b = 0x0C || b = 0x0D

/-- Whether an octet is a decimal digit. -/
def isDigit (b : UInt8) : Bool :=
  0x30 ≤ b && b ≤ 0x39

/-- Whether an octet is a hexadecimal digit, in letters of either case. -/
def isHexDigit (b : UInt8) : Bool :=
  isDigit b || 0x41 ≤ b && b ≤ 0x46 || 0x61 ≤ b && b ≤ 0x66

/-- Whether an octet is a sign. -/
def isSign (b : UInt8) : Bool :=
  b = 0x2B || b = 0x2D

/-- The value of a decimal or hexadecimal digit. -/
def digitValue (b : UInt8) : Nat :=
  if b ≤ 0x39 then b.toNat - 0x30
  else if b ≤ 0x46 then b.toNat - 0x41 + 10
  else b.toNat - 0x61 + 10

/-- The number that digits denote, the most significant first. -/
def value (base : Nat) (digits : List UInt8) : Nat :=
  digits.foldl (fun n b => n * base + digitValue b) 0

/-- The line behind its leading white space. -/
def skipSpace (line : List UInt8) : List UInt8 :=
  line.dropWhile isSpace

/-- Takes a sign off, if there is one: whether it is a minus, and what follows. -/
def takeSign : List UInt8 → Bool × List UInt8
  | [] => (false, [])
  | b :: bs => if isSign b then (b = 0x2D, bs) else (false, b :: bs)

/-- The value of digits that begin a text, if there is a digit. -/
def leading? (base : Nat) (digit : UInt8 → Bool) (text : List UInt8) : Option Nat :=
  match text.takeWhile digit with
  | [] => none
  | digits => some (value base digits)

/-- An unsigned decimal number of at most `limit`; a plus sign may stand before it. -/
def unsigned? (limit : Nat) (line : List UInt8) : Option Nat :=
  let text := match skipSpace line with
    | 0x2B :: rest => rest
    | text => text
  (leading? 10 isDigit text).filter (· ≤ limit)

/-- A signed decimal number of 32 bits. -/
def signed? (line : List UInt8) : Option Int :=
  let (negative, text) := takeSign (skipSpace line)
  (leading? 10 isDigit text).bind fun n =>
    if negative then
      if n ≤ 0x80000000 then some (-n) else none
    else
      if n < 0x80000000 then some n else none

/-- A hexadecimal number of 32 bits; `0x` or `0X` may stand before it. -/
def mask? (line : List UInt8) : Option Nat :=
  let text := match skipSpace line with
    | 0x30 :: 0x78 :: rest => rest
    | 0x30 :: 0x58 :: rest => rest
    | text => text
  (leading? 16 isHexDigit text).filter (· < UInt32.size)

/-! ## Real numerals -/

/-- Takes a point off, and the digits behind it. -/
def takePoint : List UInt8 → List UInt8 × List UInt8
  | 0x2E :: rest => (rest.takeWhile isDigit, rest.dropWhile isDigit)
  | rest => ([], rest)

/-- Takes an exponent off: `e` or `E`, a sign and digits. -/
def takeExponent : List UInt8 → Bool × List UInt8
  | [] => (false, [])
  | b :: bs =>
    if b = 0x65 || b = 0x45 then
      let (negative, text) := takeSign bs
      (negative, text.takeWhile isDigit)
    else (false, [])

/-- The text from a position on, if the position is not past its end. -/
def from? (text : List UInt8) (pos : Nat) : Option (List UInt8) :=
  if pos ≤ text.length then some (text.drop pos) else none

/-- The position behind the digits that stand at a position. -/
def digitsEnd? (text : List UInt8) (pos : Nat) : Option Nat :=
  (from? text pos).map fun rest => pos + (rest.takeWhile isDigit).length

/-- The position behind a sign, if there is one at a position. -/
def signEnd (text : List UInt8) (pos : Nat) : Nat :=
  if text[pos]?.any isSign then pos + 1 else pos

/-- The position behind a point and the digits that follow it, if there is one at a position. -/
def pointEnd? (text : List UInt8) (pos : Nat) : Option Nat :=
  if text[pos]? = some 0x2E then digitsEnd? text (pos + 1) else some pos

/-- The position behind an exponent, if there is one at a position: `e` or `E`, a sign and at least
one digit.  Without a digit there is no exponent. -/
def exponentEnd? (text : List UInt8) (pos : Nat) : Option Nat :=
  if text[pos]? = some 0x65 ∨ text[pos]? = some 0x45 then
    let digits := signEnd text (pos + 1)
    (digitsEnd? text digits).map fun stop => if digits < stop then stop else pos
  else some pos

/-- The position behind the real numeral that a text begins with, if there is one: a sign, digits
with a point among, before or behind them, and an exponent.  There must be a digit before or behind
the point.  Nothing at all means that a position was asked for that is past the end of the text. -/
def realEnd? (text : List UInt8) : Option (Option Nat) :=
  let start := signEnd text 0
  (digitsEnd? text start).bind fun point =>
  (pointEnd? text point).bind fun mark =>
  if point = start ∧ mark ≤ point + 1 then some none else (exponentEnd? text mark).map some

/-- The parts of a real numeral. -/
def realParts (text : List UInt8) : RealNumeral :=
  let (negative, text) := takeSign text
  let (fraction, rest) := takePoint (text.dropWhile isDigit)
  let (exponentNegative, exponent) := takeExponent rest
  ⟨negative, text.takeWhile isDigit, fraction, exponentNegative, exponent⟩

/-- The real numeral that a line begins with. -/
def real? (line : List UInt8) : Option RealNumeral :=
  let text := skipSpace line
  (realEnd? text).join.map fun stop => realParts (text.take stop)

/-! ## First facts -/

@[simp] theorem value_nil (base : Nat) : value base [] = 0 := rfl

/-- A digit more multiplies by the base. -/
theorem value_concat (base : Nat) (digits : List UInt8) (b : UInt8) :
    value base (digits ++ [b]) = value base digits * base + digitValue b := by
  simp [value]

theorem leading?_eq_none_iff {base : Nat} {digit : UInt8 → Bool} {text : List UInt8} :
    leading? base digit text = none ↔ text.takeWhile digit = [] := by
  unfold leading?
  split <;> simp_all

end Numeral
end GameBox
