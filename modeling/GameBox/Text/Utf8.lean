/-!
# Reading octets as UTF-8, with replacement

Octets that are not UTF-8 still become text: every longest beginning of a character that its
octets break off is replaced by one U+FFFD, and so is every octet that begins no character.

The reader is a machine with one state per place inside a character.  Which octets may follow is
fixed by the first octet, so that no overlong form, no surrogate and nothing above U+10FFFF is
ever read as a character.

* `Utf8.decode`: the text that octets stand for.
* `Utf8.encode`: the octets of a text.
-/

namespace GameBox
namespace Utf8

/-- The character that stands for octets which are no UTF-8. -/
def replacement : Char := '\uFFFD'

/-- A place in a text of octets: between characters, or inside one. -/
inductive State where
  /-- Between two characters. -/
  | start
  /-- `more + 1` octets are missing, the next one lies between `low` and `high`, and `bits` holds
  what the octets so far contribute. -/
  | inside (more : Nat) (low high : UInt8) (bits : Nat)

/-- What an octet that stands between two characters begins. -/
def begins (b : UInt8) : Option Char × State :=
  let n := b.toNat
  if n < 0x80 then (some (Char.ofNat n), .start)
  else if n < 0xC2 then (some replacement, .start)
  else if n < 0xE0 then (none, .inside 0 0x80 0xBF (n % 0x20))
  else if n = 0xE0 then (none, .inside 1 0xA0 0xBF (n % 0x10))
  else if n = 0xED then (none, .inside 1 0x80 0x9F (n % 0x10))
  else if n < 0xF0 then (none, .inside 1 0x80 0xBF (n % 0x10))
  else if n = 0xF0 then (none, .inside 2 0x90 0xBF (n % 0x08))
  else if n < 0xF4 then (none, .inside 2 0x80 0xBF (n % 0x08))
  else if n = 0xF4 then (none, .inside 2 0x80 0x8F (n % 0x08))
  else (some replacement, .start)

/-- Reads octets from a state; `text` is what was read before, the last character first. -/
def decodeFrom : State → (text : List Char) → List UInt8 → List Char
  | .start, text, [] => text
  | .inside .., text, [] => replacement :: text
  | .start, text, b :: bs =>
    match begins b with
    | (some c, state) => decodeFrom state (c :: text) bs
    | (none, state) => decodeFrom state text bs
  | .inside more low high bits, text, b :: bs =>
    if low ≤ b ∧ b ≤ high then
      let bits := bits * 0x40 + b.toNat % 0x40
      match more with
      | 0 => decodeFrom .start (Char.ofNat bits :: text) bs
      | more + 1 => decodeFrom (.inside more 0x80 0xBF bits) text bs
    else
      match begins b with
      | (some c, state) => decodeFrom state (c :: replacement :: text) bs
      | (none, state) => decodeFrom state (replacement :: text) bs

/-- The characters that octets stand for. -/
def decodeChars (bs : List UInt8) : List Char :=
  (decodeFrom .start [] bs).reverse

/-- The text that octets stand for. -/
def decode (bs : List UInt8) : String :=
  String.ofList (decodeChars bs)

/-- The octets of a text. -/
def encode (text : String) : List UInt8 :=
  text.toList.flatMap String.utf8EncodeChar

end Utf8
end GameBox
