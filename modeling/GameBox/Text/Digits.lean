/-!
# Numbers and columns in text

Numbers are written in decimal or hexadecimal digits, filled up with zeros where a place has a
fixed width, and cells are filled up with spaces.

* `decimal`, `hexadecimal`: the digits of a number, at least a given count of them.
* `mask32`: a 32-bit word as `0x` and eight hexadecimal digits.
* `alignRight`, `alignLeft`: a cell of at least a given width.
-/

namespace GameBox
namespace Text

/-- A text behind as many copies of a character as bring it to the width. -/
def fillLeft (fill : Char) (width : Nat) (text : List Char) : List Char :=
  List.replicate (width - text.length) fill ++ text

/-- The decimal digits of a number, at least `width` of them. -/
def decimal (width n : Nat) : String :=
  String.ofList (fillLeft '0' width (Nat.toDigits 10 n))

/-- The lower-case hexadecimal digits of a number, at least `width` of them. -/
def hexadecimal (width n : Nat) : String :=
  String.ofList (fillLeft '0' width (Nat.toDigits 16 n))

/-- An integer in decimal digits, behind a minus sign if it is negative. -/
def integer : Int → String
  | .ofNat n => decimal 1 n
  | .negSucc n => "-" ++ decimal 1 (n + 1)

/-- A 32-bit word as `0x` and its eight hexadecimal digits. -/
def mask32 (word : UInt32) : String :=
  "0x" ++ hexadecimal 8 word.toNat

/-- Octets as pairs of lower-case hexadecimal digits. -/
def hexOctets (bs : List UInt8) : String :=
  String.join (bs.map fun b => hexadecimal 2 b.toNat)

/-- A cell whose text stands at its right end. -/
def alignRight (width : Nat) (text : String) : String :=
  String.ofList (fillLeft ' ' width text.toList)

/-- A cell whose text stands at its left end. -/
def alignLeft (width : Nat) (text : String) : String :=
  text ++ String.ofList (List.replicate (width - text.length) ' ')

/-- A line of output, with the line feed that ends it. -/
def line (text : String) : String :=
  text ++ "\n"

/-- The text of several lines. -/
def lines (texts : List String) : String :=
  String.join (texts.map line)

theorem length_fillLeft (fill : Char) (width : Nat) (text : List Char) :
    (fillLeft fill width text).length = max width text.length := by
  simp only [fillLeft, List.length_append, List.length_replicate]
  omega

theorem fillLeft_of_le {fill : Char} {width : Nat} {text : List Char}
    (h : width ≤ text.length) : fillLeft fill width text = text := by
  simp [fillLeft, Nat.sub_eq_zero_of_le h]

end Text
end GameBox
