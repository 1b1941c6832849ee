import GameBox.Error
import GameBox.Octets
import GameBox.Text.Utf8

/-!
# Reading fields

In the binary encoding a field has a fixed width, or, for a string, a length before it.  In the
text encoding every field is a line that ends in carriage return and line feed.  Values of 128 and
256 bits are plain octets in both.

A read looks at the buffer from a position and says what it found and where the next read begins.
A read that fails leaves the position where it was, with two exceptions: a line that does not hold
the expected numeral is consumed, and so is the length before a binary string that is too long or
cut off.

* `Found`: what a read found, and the next position.
* `Octets.take`, `Octets.line`: the two pieces that every read is made of.
* `Field.read`: reading a field in an encoding.
-/

namespace GameBox

/-- What a read found, and the position at which the next one begins. -/
structure Found (ε α : Type) where
  result : Except ε α
  next : Nat

namespace Found

/-- The same read with another view of what it found. -/
def map {ε α β : Type} (f : α → β) (found : Found ε α) : Found ε β :=
  ⟨found.result.map f, found.next⟩

/-- The same read, with a check of what it found that may refuse it. -/
def check {ε α β : Type} (f : α → Except ε β) (found : Found ε α) : Found ε β :=
  ⟨found.result.bind f, found.next⟩

@[simp] theorem next_map {ε α β : Type} (f : α → β) (found : Found ε α) :
    (found.map f).next = found.next := rfl

@[simp] theorem next_check {ε α β : Type} (f : α → Except ε β) (found : Found ε α) :
    (found.check f).next = found.next := rfl

end Found

namespace Octets

/-- The octets that are left from a position. -/
def left (data : Octets) (pos : Nat) : Nat := data.size - pos

/-- Takes the next `count` octets. -/
def take (data : Octets) (count pos : Nat) : Found ReadError (List UInt8) :=
  match data.slice? pos count with
  | some piece => ⟨.ok piece, pos + count⟩
  | none => ⟨.error (.truncated count (data.left pos)), pos⟩

/-- Passes over the next `count` octets. -/
def skip (data : Octets) (count pos : Nat) : Found ReadError Unit :=
  if pos + count ≤ data.size then ⟨.ok (), pos + count⟩
  else ⟨.error (.truncated count (data.left pos)), pos⟩

/-- The longest line, without what ends it, and the window in which its end is looked for. -/
def lineLimit : Nat := 4096

/-- The distance from a position to the first carriage return among the next `window` octets. -/
def findReturn? (data : Octets) : (window pos : Nat) → Option Nat
  | 0, _ => none
  | window + 1, pos =>
    match data[pos]? with
    | none => none
    | some b => if b = 0x0D then some 0 else (findReturn? data window (pos + 1)).map (· + 1)

/-- Takes the next line: the octets before a carriage return, which a line feed must follow. -/
def line (data : Octets) (pos : Nat) : Found ReadError (List UInt8) :=
  let left := data.left pos
  match data.findReturn? lineLimit pos with
  | none =>
    if lineLimit ≤ left then ⟨.error (.lineTooLong pos lineLimit), pos⟩
    else ⟨.error (.truncated (left + 2) left), pos⟩
  | some length =>
    match data[pos + length + 1]? with
    | none => ⟨.error (.truncated (length + 2) left), pos⟩
    | some b =>
      if b = 0x0A then ⟨.ok (data.extract pos (pos + length)).toList, pos + length + 2⟩
      else ⟨.error (.badLineTerminator (pos + length)), pos⟩

end Octets

namespace Field

/-- The least length that a binary string must not have. -/
def stringLimit : Nat := 0xFFFF

/-- Takes a number of `width` octets. -/
def word (width : Nat) (data : Octets) (pos : Nat) : Found ReadError Nat :=
  (data.take width pos).map littleEndian

/-- What a line says where a numeral is expected; the error of a line without one shows it whole. -/
def scan {α : Type} (expected : Field) (scan? : List UInt8 → Option α) (line : List UInt8) :
    Except ReadError α :=
  match scan? line with
  | some value => .ok value
  | none => .error (.invalidText expected (Utf8.decode line))

/-- Takes the next line and reads the numeral it begins with. -/
def numeral {α : Type} (expected : Field) (scan? : List UInt8 → Option α)
    (data : Octets) (pos : Nat) : Found ReadError α :=
  (data.line pos).check (scan expected scan?)

/-- Takes a string behind its length. -/
def lengthString (data : Octets) (pos : Nat) : Found ReadError String :=
  match word 4 data pos with
  | ⟨.error error, next⟩ => ⟨.error error, next⟩
  | ⟨.ok length, next⟩ =>
    if stringLimit ≤ length then
      ⟨.error (.limitExceeded .stringLength length stringLimit), next⟩
    else (data.take length next).map Utf8.decode

/-- Reads a field of fixed width, or a string behind its length. -/
def readBinary (data : Octets) (pos : Nat) : (field : Field) → Found ReadError field.Value
  | bool => (word 4 data pos).map (· ≠ 0)
  | mask => (word 4 data pos).map UInt32.ofNat
  | nat8 => (word 1 data pos).map UInt8.ofNat
  | nat16 => (word 2 data pos).map UInt16.ofNat
  | nat32 => (word 4 data pos).map UInt32.ofNat
  | nat64 => (word 8 data pos).map UInt64.ofNat
  | integer => (word 4 data pos).map fun n => (UInt32.ofNat n).toInt32
  | real => (word 4 data pos).map fun n => ⟨UInt32.ofNat n⟩
  | string => lengthString data pos
  | nat128 => (word 16 data pos).map (BitVec.ofNat 128)
  | nat256 => (word 32 data pos).map (BitVec.ofNat 256)

/-- Reads a field that is a line. -/
def readText (data : Octets) (pos : Nat) : (field : Field) → Found ReadError field.Value
  | bool => (data.line pos).map fun line => line.head? = some 0x54
  | mask => (numeral .mask Numeral.mask? data pos).map UInt32.ofNat
  | nat8 => (numeral .nat8 (Numeral.unsigned? (UInt8.size - 1)) data pos).map UInt8.ofNat
  | nat16 => (numeral .nat16 (Numeral.unsigned? (UInt16.size - 1)) data pos).map UInt16.ofNat
  | nat32 => (numeral .nat32 (Numeral.unsigned? (UInt32.size - 1)) data pos).map UInt32.ofNat
  | nat64 => (numeral .nat64 (Numeral.unsigned? (UInt64.size - 1)) data pos).map UInt64.ofNat
  | integer => (numeral .integer Numeral.signed? data pos).map Int32.ofInt
  | real => (numeral .real Numeral.real? data pos).map Binary32.ofNumeral
  | string => (data.line pos).map Utf8.decode
  | nat128 => (word 16 data pos).map (BitVec.ofNat 128)
  | nat256 => (word 32 data pos).map (BitVec.ofNat 256)

/-- Reads a field at a position of a buffer. -/
def read (encoding : Encoding) (field : Field) (data : Octets) (pos : Nat) :
    Found ReadError field.Value :=
  match encoding with
  | .binary => readBinary data pos field
  | .text => readText data pos field

end Field
end GameBox
