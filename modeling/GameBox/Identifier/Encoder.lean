import GameBox.Identifier.Write

/-!
# Encoders of identifiers

An encoder keeps a list of the strings that it has written, and the version that it has written
last.  Nothing else is said of it: whenever it has a choice, every way to take it is a way to encode
an identifier.  A version below three has to be written again before every identifier, and it may
then be another one.  At version two every string is written out; later a string may be written out
again although it occurs in the list, and a reference may go to any of its places.

* `Meaning`: what an identifier stands for, with its name.
* `Encoder`: what an encoder remembers, with the table of a reader that knows as much.
* `Encoder.Settles`, `Encoder.Spells`, `Encoder.Takes`: the ways to write a version, a word with
  what follows it, and an identifier.
* `Encoder.Run`: the ways to write a sequence of identifiers.
* `traced`: a reader of one identifier that tells the table that it leaves.
-/

namespace GameBox
namespace Identifier

/-- What an identifier stands for. -/
inductive Meaning where
  | unassigned
  | collection (id : UInt32) (small : id < 0x40000000)
  | string (text : String) (named : text ≠ "")
  deriving DecidableEq

/-- The name that a reader gives. -/
def Meaning.name : Meaning → String
  | unassigned => ""
  | collection id _ => Collection.name id
  | string text _ => text

/-- What an encoder remembers. -/
structure Encoder where
  /-- The version written last, or zero. -/
  version : UInt32 := 0
  /-- The strings that were written out. -/
  strings : List String := []
  deriving DecidableEq

/-- One identifier as it was written. -/
structure Step where
  meaning : Meaning
  word : UInt32
  octets : List UInt8
  /-- What the encoder remembers from then on. -/
  behind : Encoder
  deriving DecidableEq

/-- Whether an encoding has room for the string, and its word is not the one that stands for no
value. -/
def Step.Fits (encoding : Encoding) (step : Step) : Prop :=
  match step.meaning with
  | .unassigned | .collection .. => True
  | .string text _ =>
    Field.Fits encoding .string text ∧ step.word ≠ Collection.unassigned

namespace Encoder

/-- The table of a reader that has read what the encoder wrote. -/
def table (encoder : Encoder) : Table := ⟨encoder.version, encoder.strings.toArray⟩

@[simp] theorem version_table (encoder : Encoder) : encoder.table.version = encoder.version := rfl

/-- The octets in front of an identifier, and the version that it is written at. -/
inductive Settles (encoding : Encoding) (encoder : Encoder) : List UInt8 → UInt32 → Prop
  | settled (h : 3 ≤ encoder.version) : Settles encoding encoder [] encoder.version
  | written (version : UInt32) (h : encoder.version < 3) (hversion : 2 ≤ version) :
    Settles encoding encoder (Field.nat32.write encoding version) version

/-- The word of an identifier and the octets behind it, and the strings that are then written. -/
inductive Spells (encoding : Encoding) (encoder : Encoder) :
    Meaning → UInt32 → List UInt8 → List String → Prop
  | unassigned :
    Spells encoding encoder .unassigned Collection.unassigned [] encoder.strings
  | collection (id : UInt32) (small : id < 0x40000000) :
    Spells encoding encoder (.collection id small) id [] encoder.strings
  /-- The string is written out.  At version two the low bits of the word are not used. -/
  | inline (text : String) (named : text ≠ "") (tag : StringTag) (low : Nat)
    (bound : low < 0x40000000) (h : encoder.version = 2 ∨ low = 0) :
    Spells encoding encoder (.string text named) (tag.word low)
      (Field.string.write encoding text) (encoder.strings ++ [text])
  /-- The string is referred to by one of its places, counted from one. -/
  | earlier (text : String) (named : text ≠ "") (tag : StringTag) (place : Nat)
    (bound : place + 1 < 0x40000000) (h : encoder.version ≠ 2)
    (occurs : encoder.strings[place]? = some text)
    (assigned : tag.word (place + 1) ≠ Collection.unassigned) :
    Spells encoding encoder (.string text named) (tag.word (place + 1)) [] encoder.strings

/-- One identifier, with the version in front of it if there has to be one. -/
inductive Takes (encoding : Encoding) (encoder : Encoder) : Step → Prop
  | intro {front tail : List UInt8} {version word : UInt32} {meaning : Meaning}
    {strings : List String} (hfront : encoder.Settles encoding front version)
    (htail : Spells encoding ⟨version, encoder.strings⟩ meaning word tail strings) :
    Takes encoding encoder
      ⟨meaning, word, front ++ (Field.nat32.write encoding word ++ tail), ⟨version, strings⟩⟩

/-- A sequence of identifiers, and what the encoder remembers behind it. -/
inductive Run (encoding : Encoding) : Encoder → List Step → Encoder → Prop
  | nil (encoder : Encoder) : Run encoding encoder [] encoder
  | cons {encoder last : Encoder} {step : Step} {steps : List Step}
    (hstep : encoder.Takes encoding step) (hsteps : Run encoding step.behind steps last) :
    Run encoding encoder (step :: steps) last

end Encoder

/-- Reads one identifier, for its name and the table that is left. -/
def traced : Decoder Table (String × Table) := do
  let ident ← decoder
  let table ← Decoder.state
  pure (ident.name, table)

end Identifier
end GameBox
