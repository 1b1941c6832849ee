import GameBox.Field.Read
import GameBox.Real.Shortest

/-!
# Writing fields

A field is written so that reading it gives its value back.  The binary encoding holds every
value but the longest strings.  The text encoding writes one line for each field: it has no room
for a carriage return or for a long string, and no numeral for a real that is not finite.

* `Field.write`: the octets of a value in an encoding.
* `Field.Fits`: the values that an encoding has room for.
-/

namespace GameBox
namespace Field

/-- A text as a line, with what ends it. -/
def writeLine (text : String) : List UInt8 := Utf8.encode text ++ [0x0D, 0x0A]

/-- A number as a line of decimal digits. -/
def writeNumber (n : Nat) : List UInt8 := writeLine (Text.decimal 1 n)

/-- Writes a field of fixed width, or a string behind its length. -/
def writeBinary : (field : Field) → field.Value → List UInt8
  | bool, v => octets 4 v.toNat
  | mask, v => octets 4 v.toNat
  | nat8, v => octets 1 v.toNat
  | nat16, v => octets 2 v.toNat
  | nat32, v => octets 4 v.toNat
  | nat64, v => octets 8 v.toNat
  | integer, v => octets 4 v.toUInt32.toNat
  | real, v => octets 4 v.bits.toNat
  | string, v => octets 4 (Utf8.encode v).length ++ Utf8.encode v
  | nat128, v => octets 16 v.toNat
  | nat256, v => octets 32 v.toNat

/-- Writes a field as a line. -/
def writeText : (field : Field) → field.Value → List UInt8
  | bool, v => writeLine (if v then "True" else "False")
  | mask, v => writeLine (Text.hexadecimal 8 v.toNat)
  | nat8, v => writeNumber v.toNat
  | nat16, v => writeNumber v.toNat
  | nat32, v => writeNumber v.toNat
  | nat64, v => writeNumber v.toNat
  | integer, v => writeLine (Text.integer v.toInt)
  | real, v => writeLine v.positional
  | string, v => writeLine v
  | nat128, v => octets 16 v.toNat
  | nat256, v => octets 32 v.toNat

/-- Writes a field in an encoding. -/
def write (encoding : Encoding) (field : Field) (value : field.Value) : List UInt8 :=
  match encoding with
  | .binary => writeBinary field value
  | .text => writeText field value

/-- Whether an encoding has room for a value. -/
def Fits : Encoding → (field : Field) → field.Value → Prop
  | .binary, string, v => (Utf8.encode v).length < stringLimit
  | .text, string, v => 0x0D ∉ Utf8.encode v ∧ (Utf8.encode v).length < Octets.lineLimit
  | .text, real, v => ¬v.isNaN ∧ ¬v.isInfinite
  | _, _, _ => True

instance : (encoding : Encoding) → (field : Field) → (value : field.Value) →
    Decidable (Fits encoding field value)
  | .binary, string, v => inferInstanceAs (Decidable ((Utf8.encode v).length < stringLimit))
  | .text, string, v =>
    inferInstanceAs (Decidable (0x0D ∉ Utf8.encode v ∧ (Utf8.encode v).length < Octets.lineLimit))
  | .text, real, v => inferInstanceAs (Decidable (¬v.isNaN ∧ ¬v.isInfinite))
  | .binary, bool, _ | .binary, mask, _ | .binary, nat8, _ | .binary, nat16, _
  | .binary, nat32, _ | .binary, nat64, _ | .binary, integer, _ | .binary, real, _
  | .binary, nat128, _ | .binary, nat256, _
  | .text, bool, _ | .text, mask, _ | .text, nat8, _ | .text, nat16, _ | .text, nat32, _
  | .text, nat64, _ | .text, integer, _ | .text, nat128, _ | .text, nat256, _ => .isTrue trivial

/-- Strings and reals are the only fields that an encoding may have no room for. -/
theorem fits_of_ne (encoding : Encoding) (field : Field) (hreal : field ≠ .real)
    (hstring : field ≠ .string) (value : field.Value) : Fits encoding field value := by
  cases field with
  | real => exact absurd rfl hreal
  | string => exact absurd rfl hstring
  | bool | mask | nat8 | nat16 | nat32 | nat64 | integer | nat128 | nat256 =>
    cases encoding <;> trivial

end Field
end GameBox
