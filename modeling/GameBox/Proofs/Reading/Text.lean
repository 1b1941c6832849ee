import GameBox.Proofs.Reading.Binary
import GameBox.Proofs.Reading.Decoder
import GameBox.Proofs.Text.Numeral

/-!
# Lines that were written are read back

In the text encoding a field is a line, and the reader of the field sees nothing but this line.  So
there are two things to say of each kind of fields: what the line holds gives the value back, and
the line is one, without a carriage return in it and short enough.  Strings are the only values for
which the second is a condition (`Field.Fits`).

Reals are left out.  A real is written with the shortest digits that tell it from its neighbours,
and nothing here depends on which of the numerals of a real is written; a numeral that denotes the
real is read as the real (`Field.reads_realLine`).

* `Field.reads_line`, `Field.reads_numeral`: lines.
* `Field.reads_writeText`: every kind of fields but reals.
* `Field.reads_write`, `Decoder.Reads.write`: the same in either encoding.
-/

namespace GameBox
namespace Field

open Reader

variable {α : Type} {line : List UInt8}

/-! ## Lines -/

theorem reads_line (hreturn : 0x0D ∉ line) (hlength : line.length < Octets.lineLimit) :
    Reads (fun data pos => data.line pos) (line ++ Octets.lineEnd) line :=
  fun front back => Octets.line_middle front back hreturn hlength

theorem reads_numeral {expected : Field} {scan? : List UInt8 → Option α} {value : α}
    (hreturn : 0x0D ∉ line) (hlength : line.length < Octets.lineLimit)
    (h : scan? line = some value) :
    Reads (numeral expected scan?) (line ++ Octets.lineEnd) value := by
  refine (reads_line hreturn hlength).check ?_
  rw [scan, h]

/-- A numeral that denotes a real is read as it, whatever stands behind the numeral in its line. -/
theorem reads_realLine {numeral : RealNumeral} (hreturn : 0x0D ∉ line)
    (hlength : line.length < Octets.lineLimit) (h : Numeral.real? line = some numeral) :
    Reads (real.read .text) (line ++ Octets.lineEnd) (Binary32.ofNumeral numeral) :=
  (reads_numeral hreturn hlength h).map Binary32.ofNumeral

/-! ## Numbers -/

/-- Numbers of 64 bits have at most twenty digits. -/
theorem length_octetsOf_ten_le {n : Nat} (h : n < 2 ^ 64) :
    (Numeral.octetsOf 10 n).length ≤ 20 :=
  Numeral.length_octetsOf_le (by decide) (by decide) (Nat.lt_trans h (by decide))

theorem return_notMem_octetsOf_ten (n : Nat) : 0x0D ∉ Numeral.octetsOf 10 n :=
  fun h => (Numeral.of_mem_octetsOf_ten n 0x0D h).2.2.2 rfl

theorem reads_writeNumber {expected : Field} {limit n : Nat} (h : n ≤ limit)
    (hlimit : limit < 2 ^ 64) :
    Reads (numeral expected (Numeral.unsigned? limit)) (writeNumber n) n := by
  have hlength := length_octetsOf_ten_le (Nat.lt_of_le_of_lt h hlimit)
  rw [writeNumber, writeLine, Text.encode_decimal]
  exact reads_numeral (return_notMem_octetsOf_ten n) (Nat.lt_of_le_of_lt hlength (by decide))
    (Numeral.unsigned?_octetsOf h)

/-- A value that a number gives back is read from the line of the number. -/
theorem reads_map_number {expected : Field} {limit n : Nat} {f : Nat → α} {value : α}
    (h : n < limit) (hlimit : limit ≤ 2 ^ 64) (hvalue : f n = value) :
    Reads (fun data pos => (numeral expected (Numeral.unsigned? (limit - 1)) data pos).map f)
      (writeNumber n) value := by
  have hnumber : Reads (numeral expected (Numeral.unsigned? (limit - 1))) (writeNumber n) n :=
    reads_writeNumber (by omega) (by omega)
  have hmap := hnumber.map f
  rwa [hvalue] at hmap

theorem reads_integerLine (value : Int32) :
    Reads (numeral .integer Numeral.signed?) (writeLine (Text.integer value.toInt))
      value.toInt := by
  have hmin : -0x80000000 ≤ value.toInt := value.le_toInt
  have hmax : value.toInt < 0x80000000 := value.toInt_lt
  have hlength := length_octetsOf_ten_le (n := value.toInt.natAbs) (by omega)
  have hreturn := return_notMem_octetsOf_ten value.toInt.natAbs
  rw [writeLine, Text.encode_integer]
  by_cases hsign : value.toInt < 0
  · have hscan := Numeral.signed?_minus_octetsOf (n := value.toInt.natAbs) (by omega)
    have hvalue : (-value.toInt.natAbs : Int) = value.toInt := by omega
    rw [if_pos hsign]
    rw [hvalue] at hscan
    refine reads_numeral ?_ ?_ hscan
    · rw [List.singleton_append, List.mem_cons, not_or]
      exact ⟨by decide, hreturn⟩
    · rw [List.singleton_append, List.length_cons]
      exact Nat.lt_of_le_of_lt (Nat.succ_le_succ hlength) (by decide)
  · have hscan := Numeral.signed?_octetsOf (n := value.toInt.natAbs) (by omega)
    have hvalue : (value.toInt.natAbs : Int) = value.toInt := by omega
    rw [if_neg hsign, List.nil_append]
    rw [hvalue] at hscan
    exact reads_numeral hreturn (Nat.lt_of_le_of_lt hlength (by decide)) hscan

theorem reads_maskLine (value : UInt32) :
    Reads (numeral .mask Numeral.mask?) (writeLine (Text.hexadecimal 8 value.toNat))
      value.toNat := by
  have hdigits : (Numeral.octetsOf 16 value.toNat).length ≤ 8 :=
    Numeral.length_octetsOf_le (by decide) (by decide) value.toNat_lt
  rw [writeLine, Text.encode_hexadecimal]
  refine reads_numeral ?_ ?_ (Numeral.mask?_octetsOf _ value.toNat_lt)
  · intro hmem
    rcases List.mem_append.1 hmem with hzero | hdigit
    · exact absurd (List.eq_of_mem_replicate hzero) (by decide)
    · exact (Numeral.of_mem_octetsOf_sixteen value.toNat 0x0D hdigit).2.2.2.2 rfl
  · rw [List.length_append, List.length_replicate]
    show _ < 4096
    omega

/-! ## All kinds -/

theorem reads_boolLine (value : Bool) : Reads (bool.read .text) (bool.writeText value) value := by
  have hline : Reads (fun data pos => data.line pos) (bool.writeText value)
      (Utf8.encode (if value then "True" else "False")) := by
    cases value <;> exact reads_line (by decide) (by decide)
  have hvalue := hline.map fun line => decide (line.head? = some 0x54)
  cases value <;> exact hvalue

/-- **Lines are read back.** -/
theorem reads_writeText (field : Field) {value : field.Value} (hreal : field ≠ .real)
    (h : Fits .text field value) : Reads (field.read .text) (field.writeText value) value := by
  cases field with
  | bool => exact reads_boolLine value
  | mask =>
    have hmask := (reads_maskLine value).map UInt32.ofNat
    rwa [UInt32.ofNat_toNat] at hmask
  | nat8 => exact reads_map_number (UInt8.toNat_lt value) (by decide) UInt8.ofNat_toNat
  | nat16 => exact reads_map_number (UInt16.toNat_lt value) (by decide) UInt16.ofNat_toNat
  | nat32 => exact reads_map_number (UInt32.toNat_lt value) (by decide) UInt32.ofNat_toNat
  | nat64 => exact reads_map_number (UInt64.toNat_lt value) (by decide) UInt64.ofNat_toNat
  | integer =>
    have hinteger := (reads_integerLine value).map Int32.ofInt
    rwa [Int32.ofInt_toInt] at hinteger
  | real => exact absurd rfl hreal
  | string =>
    have htext := (reads_line h.1 h.2).map Utf8.decode
    rwa [Utf8.decode_encode] at htext
  | nat128 | nat256 => exact reads_writeBinary _ trivial

/-- A field that an encoding has room for is read back in it. -/
theorem reads_write (encoding : Encoding) (field : Field) {value : field.Value}
    (hreal : field ≠ .real) (h : Fits encoding field value) :
    Reads (field.read encoding) (field.write encoding value) value := by
  cases encoding with
  | binary => exact reads_writeBinary field h
  | text => exact reads_writeText field hreal h

/-- And so is any field that is neither a real nor a string. -/
theorem reads_write_of_ne (encoding : Encoding) (field : Field) (hreal : field ≠ .real)
    (hstring : field ≠ .string) (value : field.Value) :
    Reads (field.read encoding) (field.write encoding value) value :=
  reads_write encoding field hreal (fits_of_ne encoding field hreal hstring value)

end Field

namespace Decoder

variable {σ : Type}

/-- A decoder of a field reads what was written, and leaves the state. -/
theorem Reads.write (encoding : Encoding) (kind : Field) (hreal : kind ≠ .real) {value : kind.Value}
    (h : Field.Fits encoding kind value) (s : σ) :
    Reads encoding (Decoder.read kind) s (kind.write encoding value) value s :=
  .read (Field.reads_write encoding kind hreal h) s

theorem Reads.writeNat32 (encoding : Encoding) (value : UInt32) (s : σ) :
    Reads encoding (Decoder.read .nat32) s (Field.nat32.write encoding value) value s :=
  .read (Field.reads_write_of_ne encoding .nat32 (by decide) (by decide) value) s

end Decoder
end GameBox
