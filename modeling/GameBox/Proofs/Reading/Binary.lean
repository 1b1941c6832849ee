import GameBox.Field.Write
import GameBox.Proofs.Reading.Field
import GameBox.Proofs.Text.Utf8

/-!
# Binary fields that were written are read back

A field of fixed width is the octets of a number, and the number gives the value back.  A string is
the octets of its length and those of its text.  The only values without a binary form are the
strings that are too long (`Field.Fits`).

* `Field.reads_map_word`: a value as the octets of a number.
* `Field.reads_lengthString`: strings.
* `Field.reads_writeBinary`: every kind of fields.
-/

namespace GameBox
namespace Field

open Reader

/-- A value that a number gives back is read from the octets of the number. -/
theorem reads_map_word {α : Type} {width n : Nat} {f : Nat → α} {value : α} (hn : n < 256 ^ width)
    (hvalue : f n = value) :
    Reads (fun data pos => (word width data pos).map f) (octets width n) value := by
  have hword := (reads_word width n hn).map f
  rwa [hvalue] at hword

theorem reads_lengthString {text : String} (h : (Utf8.encode text).length < stringLimit) :
    Reads lengthString (octets 4 (Utf8.encode text).length ++ Utf8.encode text) text := by
  have hlength : (Utf8.encode text).length < 256 ^ 4 := Nat.lt_trans h (by decide)
  have htext := (reads_take (Utf8.encode text)).map Utf8.decode
  rw [Utf8.decode_encode] at htext
  intro front back
  have hfirst := reads_word 4 _ hlength front (Utf8.encode text ++ back)
  have hsecond := htext (front ++ octets 4 (Utf8.encode text).length) back
  dsimp only at hsecond
  rw [← List.append_assoc] at hfirst
  rw [List.length_append] at hsecond
  rw [lengthString, ← List.append_assoc front, hfirst]
  simp only [Nat.not_le.mpr h, ↓reduceIte, hsecond, List.length_append, Nat.add_assoc]

/-- **Binary fields are read back.** -/
theorem reads_writeBinary (field : Field) {value : field.Value} (h : Fits .binary field value) :
    Reads (field.read .binary) (field.writeBinary value) value := by
  cases field with
  | bool =>
    cases value with
    | false => exact reads_map_word (by decide) rfl
    | true => exact reads_map_word (by decide) rfl
  | mask => exact reads_mask value
  | nat8 => exact reads_map_word (UInt8.toNat_lt value) UInt8.ofNat_toNat
  | nat16 => exact reads_map_word (UInt16.toNat_lt value) UInt16.ofNat_toNat
  | nat32 => exact reads_nat32 value
  | nat64 => exact reads_map_word (UInt64.toNat_lt value) UInt64.ofNat_toNat
  | integer =>
    have hvalue : (UInt32.ofNat value.toUInt32.toNat).toInt32 = value := by
      rw [UInt32.ofNat_toNat]
      rfl
    exact reads_map_word (UInt32.toNat_lt _) hvalue
  | real =>
    have hvalue : (⟨UInt32.ofNat value.bits.toNat⟩ : Binary32) = value := by
      rw [UInt32.ofNat_toNat]
    exact reads_map_word (UInt32.toNat_lt _) hvalue
  | string => exact reads_lengthString h
  | nat128 =>
    have hvalue : BitVec.ofNat 128 value.toNat = value := by
      rw [BitVec.ofNat_toNat, BitVec.setWidth_eq]
    exact reads_map_word (BitVec.isLt value) hvalue
  | nat256 =>
    have hvalue : BitVec.ofNat 256 value.toNat = value := by
      rw [BitVec.ofNat_toNat, BitVec.setWidth_eq]
    exact reads_map_word (BitVec.isLt value) hvalue

end Field
end GameBox
