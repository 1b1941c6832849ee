import GameBox.Cursor

/-!
# Requests to a cursor

A client asks a cursor for one thing after the other, and what it asks for next may depend on what
it was given, or on a failure.  Whatever it does in the end is a list of requests, each made in an
encoding.

* `Cursor.Request`, `Cursor.Request.Value`: what can be asked for, and what is given for it.
* `Cursor.answer`: the answer to a request, and the cursor behind it.
* `Cursor.trail`: the cursor after each of several requests.
-/

namespace GameBox
namespace Cursor

/-- What a client asks a cursor for. -/
inductive Request where
  /-- A field in the encoding of the cursor. -/
  | field (kind : Field)
  /-- Octets as they are. -/
  | take (count : Nat)
  /-- A line, whatever the encoding is. -/
  | line
  deriving DecidableEq, Repr

namespace Request

/-- What is given for a request. -/
abbrev Value : Request → Type
  | field kind => kind.Value
  | take _ | line => List UInt8

/-- What a request finds at a position of a buffer. -/
def read (encoding : Encoding) : (request : Request) → Octets → Nat → Found ReadError request.Value
  | field kind, data, pos => kind.read encoding data pos
  | take count, data, pos => data.take count pos
  | line, data, pos => data.line pos

end Request

/-- Answers a request. -/
def answer (cursor : Cursor) : (request : Request) → Except ReadError request.Value × Cursor
  | .field kind => cursor.read kind
  | .take count => cursor.take count
  | .line => cursor.line

/-- The cursor after each of several requests.  Some may fail, and the encoding may change between
them. -/
def trail (cursor : Cursor) : List (Encoding × Request) → List Cursor
  | [] => []
  | (encoding, request) :: requests =>
    let next := ((cursor.withEncoding encoding).answer request).2
    next :: next.trail requests

/-- An answer is what is found at the position, and the cursor moves to where the read ended. -/
theorem answer_eq_follow (cursor : Cursor) (request : Request) :
    cursor.answer request =
      cursor.follow (request.read cursor.encoding cursor.data cursor.pos) := by
  cases request <;> rfl

end Cursor
end GameBox
