import GameBox.Decoder
import GameBox.Field.Write

/-!
# What a decoder prescribes

A decoder goes through a list of data, and the list does not depend on how the data are written:
what a node asks for next depends on the values in front and on the state.  So the lists that a
decoder is made for can be told without any octets, and each of them can then be written in either
encoding.

A list is made for a decoder only if the decoder refuses none of it: there is no rule for `fail`.

* `RealLine`: a real as it stands in a line.
* `Datum`, `Datum.write`: a field or octets as they are, and their octets in an encoding.
* `Datum.need`: the octets that are asked for first, which is what a reader misses at the end of a
  buffer.
* `Decoder.Prescribes`: the lists of data that a decoder goes through.
-/

namespace GameBox

/-- A line that denotes a real.  Different lines may denote the same real. -/
structure RealLine where
  line : List UInt8
  numeral : RealNumeral
  denotes : Numeral.real? line = some numeral
  oneLine : 0x0D ∉ line
  short : line.length < Octets.lineLimit

/-- The real that a line denotes. -/
def RealLine.value (real : RealLine) : Binary32 := Binary32.ofNumeral real.numeral

/-- A field, or octets that are not encoded. -/
inductive Datum where
  /-- A field that both encodings have room for. -/
  | field (kind : Field) (value : kind.Value) (exact : kind ≠ .real)
    (fits : ∀ encoding, Field.Fits encoding kind value)
  | real (real : RealLine)
  | octets (piece : List UInt8)

/-- The octets that reading a field asks for first.  A line has two octets at least. -/
def Field.need : Encoding → Field → Nat
  | _, nat128 => 16
  | _, nat256 => 32
  | .text, _ => 2
  | .binary, nat8 => 1
  | .binary, nat16 => 2
  | .binary, nat64 => 8
  | .binary, _ => 4

namespace Datum

/-- A number of 8 bits, which both encodings have room for. -/
abbrev nat8 (value : UInt8) : Datum :=
  field .nat8 value (by decide) (Field.fits_of_ne · .nat8 (by decide) (by decide) value)

/-- A number of 32 bits, which both encodings have room for. -/
abbrev nat32 (value : UInt32) : Datum :=
  field .nat32 value (by decide) (Field.fits_of_ne · .nat32 (by decide) (by decide) value)

/-- The octets of a datum. -/
def write : Encoding → Datum → List UInt8
  | encoding, field kind value _ _ => kind.write encoding value
  | .binary, real line => Field.writeBinary .real line.value
  | .text, real line => line.line ++ [0x0D, 0x0A]
  | _, octets piece => piece

/-- Data one after the other. -/
def writeAll (encoding : Encoding) (data : List Datum) : List UInt8 :=
  data.flatMap (write encoding)

/-- The octets that reading a datum asks for first. -/
def need (encoding : Encoding) : Datum → Nat
  | field kind .. => kind.need encoding
  | real _ => Field.real.need encoding
  | octets piece => piece.length

/-- Whether a datum is written as nothing, in both encodings. -/
def isBlank : Datum → Bool
  | octets piece => piece.isEmpty
  | field .. | real _ => false

@[simp] theorem writeAll_nil (encoding : Encoding) : writeAll encoding [] = [] := rfl

@[simp] theorem writeAll_cons (encoding : Encoding) (datum : Datum) (data : List Datum) :
    writeAll encoding (datum :: data) = datum.write encoding ++ writeAll encoding data := rfl

end Datum

/-- The decoder goes through these data and refuses none of them. -/
inductive Decoder.Prescribes {σ α : Type} : Decoder σ α → σ → List Datum → Prop
  | done (value : α) (s : σ) : Prescribes (.done value) s []
  | field {kind : Field} {next : kind.Value → Decoder σ α} {s : σ} {data : List Datum}
    (value : kind.Value) (exact : kind ≠ .real) (fits : ∀ encoding, Field.Fits encoding kind value)
    (h : Prescribes (next value) s data) :
    Prescribes (.field kind next) s (.field kind value exact fits :: data)
  | real {next : Binary32 → Decoder σ α} {s : σ} {data : List Datum} (real : RealLine)
    (h : Prescribes (next real.value) s data) :
    Prescribes (.field .real next) s (.real real :: data)
  | octets {next : List UInt8 → Decoder σ α} {s : σ} {data : List Datum} (piece : List UInt8)
    (h : Prescribes (next piece) s data) :
    Prescribes (.raw piece.length next) s (.octets piece :: data)
  /-- What is left is one datum. -/
  | rest {next : List UInt8 → Decoder σ α} {s : σ} (piece : List UInt8)
    (h : Prescribes (next piece) s []) : Prescribes (.rest next) s [.octets piece]
  /-- A decoder that may stop goes on. -/
  | goesOn {next : Bool → Decoder σ α} {s : σ} {data : List Datum}
    (h : Prescribes (next false) s data) : Prescribes (.exhausted next) s data
  /-- A decoder that may stop does so. -/
  | stops {next : Bool → Decoder σ α} {s : σ} (h : Prescribes (next true) s []) :
    Prescribes (.exhausted next) s []
  | look {next : σ → Decoder σ α} {s : σ} {data : List Datum} (h : Prescribes (next s) s data) :
    Prescribes (.look next) s data
  | change {update : σ → σ} {next : Decoder σ α} {s : σ} {data : List Datum}
    (h : Prescribes next (update s) data) : Prescribes (.change update next) s data

end GameBox
