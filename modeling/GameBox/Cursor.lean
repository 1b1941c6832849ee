import GameBox.Field.Read

/-!
# Cursors

A cursor goes through a buffer field by field, for a client that decides what comes next.  Its
position may lie anywhere, also past the end; then every read fails.

* `Cursor`, `Cursor.read`: a cursor, and reading a field with it.
* `Cursor.take`, `Cursor.line`, `Cursor.literal`: reading octets whatever the encoding is.
* `Cursor.seek`, `Cursor.advance`: moving without reading.
-/

namespace GameBox

/-- A position in a buffer, and the encoding in which fields are read from there. -/
structure Cursor where
  data : Octets
  encoding : Encoding
  pos : Nat := 0

namespace Cursor

/-- The greatest position. -/
def maxPosition : Nat := UInt64.size - 1

/-- The number of octets that are left. -/
def left (cursor : Cursor) : Nat := cursor.data.left cursor.pos

/-- Whether no octet is left. -/
def isExhausted (cursor : Cursor) : Bool := cursor.data.size ≤ cursor.pos

/-- Moves to a position. -/
def seek (cursor : Cursor) (pos : Nat) : Cursor := { cursor with pos }

/-- Moves forward, at most to the greatest position. -/
def advance (cursor : Cursor) (count : Nat) : Cursor :=
  cursor.seek (min (cursor.pos + count) maxPosition)

/-- The same position in another encoding. -/
def withEncoding (cursor : Cursor) (encoding : Encoding) : Cursor := { cursor with encoding }

/-- Moves to where a read ended. -/
def follow {α : Type} (cursor : Cursor) (found : Found ReadError α) :
    Except ReadError α × Cursor :=
  (found.result, cursor.seek found.next)

/-- Reads a field. -/
def read (cursor : Cursor) (field : Field) : Except ReadError field.Value × Cursor :=
  cursor.follow (field.read cursor.encoding cursor.data cursor.pos)

/-- Reads octets as they are. -/
def take (cursor : Cursor) (count : Nat) : Except ReadError (List UInt8) × Cursor :=
  cursor.follow (cursor.data.take count cursor.pos)

/-- Reads a line, without what ends it. -/
def line (cursor : Cursor) : Except ReadError (List UInt8) × Cursor :=
  cursor.follow (cursor.data.line cursor.pos)

/-- Reads as many octets as are expected: whether they are the expected ones, and the octets. -/
def literal (cursor : Cursor) (expected : List UInt8) :
    Except ReadError (Bool × List UInt8) × Cursor :=
  let (result, cursor) := cursor.take expected.length
  (result.map fun actual => (actual = expected, actual), cursor)

/-- Octets at any position of the buffer. -/
def slice (cursor : Cursor) (start count : Nat) : Except ReadError (List UInt8) :=
  (cursor.data.take count start).result

/-- The next octets, which stay unread. -/
def peek (cursor : Cursor) (count : Nat) : Except ReadError (List UInt8) :=
  cursor.slice cursor.pos count

/-- All octets that are left, which stay unread. -/
def rest (cursor : Cursor) : List UInt8 := cursor.data.after cursor.pos

/-- Reads a field in the binary encoding, whatever the encoding of the cursor is. -/
def readBinary (cursor : Cursor) (field : Field) : Except ReadError field.Value × Cursor :=
  cursor.follow (field.read .binary cursor.data cursor.pos)

@[simp] theorem data_read (cursor : Cursor) (field : Field) :
    (cursor.read field).2.data = cursor.data := rfl

@[simp] theorem data_take (cursor : Cursor) (count : Nat) :
    (cursor.take count).2.data = cursor.data := rfl

end Cursor
end GameBox
