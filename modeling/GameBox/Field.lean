import GameBox.Real.Binary32

/-!
# Encodings and typed fields

A file is written in one of two encodings, and consists of fields of eleven kinds.

* `Encoding`: fixed-width octets, or one line for each field.
* `Field`, `Field.Value`: the kinds of fields and their values.
-/

namespace GameBox

/-- How the fields of a file are written. -/
inductive Encoding where
  | binary
  | text
  deriving DecidableEq, Repr, Inhabited

/-- The name of an encoding. -/
def Encoding.name : Encoding → String
  | .binary => "binary"
  | .text => "text"

/-- The kinds of fields. -/
inductive Field where
  | bool
  /-- A word that a text file writes in hexadecimal digits. -/
  | mask
  | nat8
  | nat16
  | nat32
  | nat64
  | integer
  | real
  | string
  | nat128
  | nat256
  deriving DecidableEq, Repr

namespace Field

/-- The values of a kind of fields. -/
abbrev Value : Field → Type
  | bool => Bool
  | mask => UInt32
  | nat8 => UInt8
  | nat16 => UInt16
  | nat32 => UInt32
  | nat64 => UInt64
  | integer => Int32
  | real => Binary32
  | string => String
  | nat128 => BitVec 128
  | nat256 => BitVec 256

/-- The name of a kind of fields, as messages give it. -/
def label : Field → String
  | bool => "bool"
  | mask => "hex mask"
  | nat8 => "nat8"
  | nat16 => "nat16"
  | nat32 => "nat32"
  | nat64 => "nat64"
  | integer => "integer"
  | real => "real"
  | string => "string"
  | nat128 => "nat128"
  | nat256 => "nat256"

end Field
end GameBox
