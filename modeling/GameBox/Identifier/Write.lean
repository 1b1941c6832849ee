import GameBox.Field.Write
import GameBox.Identifier

/-!
# Writing identifiers

A writer has a choice.  A string may be written out or referred to, and the two top bits of its word
may be anything but zero.  So what is written is a list of decisions, and the names that it stands
for are a function of this list.

Only versions from three on are written.  Such a version stands before the first identifier, and
never again.

* `Identifier.Written`: one identifier as it is written, with its octets `Written.write`.
* `Identifier.learned`: the strings that can be referred to behind some identifiers.
* `Identifier.Written.name`: the name that an identifier stands for behind others.
* `Identifier.writeVersion`: the version, which the first identifier needs.
-/

namespace GameBox

/-- A text that a binary file has room for. -/
structure ShortText where
  text : String
  fits : Field.Fits .binary .string text

namespace Identifier

/-- The top bits of the word of a string. -/
inductive StringTag where
  | low
  | high
  | both
  deriving DecidableEq, Repr

namespace StringTag

/-- The number that the top bits denote. -/
def number : StringTag → Nat
  | low => 1
  | high => 2
  | both => 3

/-- A word with these top bits and a number below them. -/
def word (tag : StringTag) (index : Nat) : UInt32 :=
  UInt32.ofNat (tag.number * 0x40000000 + index)

end StringTag

/-- A version of identifiers that is written once. -/
structure SettledVersion where
  number : UInt32
  settled : 3 ≤ number

/-- The least of these versions. -/
def SettledVersion.least : SettledVersion := ⟨3, by decide⟩

/-- An identifier as it is written. -/
inductive Written where
  | unassigned
  | collection (id : UInt32) (small : id < 0x40000000)
  /-- A string that is written out. -/
  | inline (tag : StringTag) (name : ShortText)
  /-- A reference to a string, counted from one. -/
  | earlier (tag : StringTag) (index : Nat) (bounds : 0 < index ∧ index < 0x40000000)
    (assigned : tag.word index ≠ Collection.unassigned)

namespace Written

/-- The word of an identifier. -/
def word : Written → UInt32
  | unassigned => Collection.unassigned
  | collection id _ => id
  | inline tag _ => tag.word 0
  | earlier tag index _ _ => tag.word index

/-- The string that follows the word, if there is one. -/
def tail : Written → List UInt8
  | unassigned | collection .. | earlier .. => []
  | inline _ name => Field.writeBinary .string name.text

/-- The octets of an identifier: its word, and its string if there is one. -/
def write (ident : Written) : List UInt8 := octets 4 ident.word.toNat ++ ident.tail

/-- The string that can be referred to from then on; the empty one cannot. -/
def learns : Written → List String
  | unassigned | collection .. | earlier .. => []
  | inline _ name => if name.text.isEmpty then [] else [name.text]

end Written

/-- The strings that can be referred to behind some identifiers. -/
def learned (before : List Written) : List String := before.flatMap Written.learns

/-- The name that an identifier stands for behind others. -/
def Written.name (before : List Written) : Written → String
  | unassigned => ""
  | collection id _ => Collection.name id
  | inline _ name => name.text
  | earlier _ index _ _ => ((learned before)[index - 1]?).getD ""

/-- The version stands before the first identifier only. -/
def writeVersion (version : SettledVersion) : (before : List Written) → List UInt8
  | [] => octets 4 version.number.toNat
  | _ :: _ => []

end Identifier
end GameBox
