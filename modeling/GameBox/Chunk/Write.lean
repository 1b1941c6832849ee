import GameBox.Chunk.Data
import GameBox.Identifier.Write

/-!
# Writing chunks

A chunk is a list of fields and identifiers.  The octets of a list depend on its order only through
the identifiers: the version of the identifiers stands before the first one.

* `Token`: a field or an identifier as it is written.
* `Token.writeAll`: the octets of a list of tokens.
* `Token.idents`: the identifiers among tokens.
* `Token.given`: tokens that some versions of a chunk do not have.
-/

namespace GameBox

/-- The binary encoding has room for every value that is no string. -/
theorem Field.fits_binary (kind : Field) (value : kind.Value) (h : kind ≠ .string) :
    Fits .binary kind value := by
  cases kind with
  | string => exact absurd rfl h
  | bool | mask | nat8 | nat16 | nat32 | nat64 | integer | real | nat128 | nat256 => trivial

/-- A field or an identifier as it is written. -/
inductive Token where
  | field (kind : Field) (value : kind.Value) (fits : Field.Fits .binary kind value)
  | ident (ident : Identifier.Written)

namespace Token

open Identifier

/-- A number of 8 bits, which always fits, as all fields do that are no strings. -/
abbrev nat8 (value : UInt8) : Token :=
  field .nat8 value (Field.fits_binary .nat8 value (by decide))

/-- A number of 16 bits. -/
abbrev nat16 (value : UInt16) : Token :=
  field .nat16 value (Field.fits_binary .nat16 value (by decide))

/-- A number of 32 bits. -/
abbrev nat32 (value : UInt32) : Token :=
  field .nat32 value (Field.fits_binary .nat32 value (by decide))

/-- A number of 64 bits. -/
abbrev nat64 (value : UInt64) : Token :=
  field .nat64 value (Field.fits_binary .nat64 value (by decide))

/-- A number of 128 bits. -/
abbrev nat128 (value : BitVec 128) : Token :=
  field .nat128 value (Field.fits_binary .nat128 value (by decide))

/-- A truth value. -/
abbrev bool (value : Bool) : Token :=
  field .bool value (Field.fits_binary .bool value (by decide))

/-- A real. -/
abbrev real (value : Binary32) : Token :=
  field .real value (Field.fits_binary .real value (by decide))

/-- A string, which is short enough. -/
abbrev string (value : ShortText) : Token := field .string value.text value.fits

/-- Tokens that are there only under a condition. -/
def given (condition : Prop) [Decidable condition] (tokens : List Token) : List Token :=
  if condition then tokens else []

/-- The identifiers among tokens. -/
def idents : List Token → List Written
  | [] => []
  | field .. :: tokens => idents tokens
  | ident written :: tokens => written :: idents tokens

/-- The octets of tokens that stand behind some identifiers. -/
def writeAll (version : SettledVersion) : (before : List Written) → List Token → List UInt8
  | _, [] => []
  | before, field kind value _ :: tokens =>
    kind.writeBinary value ++ writeAll version before tokens
  | before, ident written :: tokens =>
    writeVersion version before ++ written.write ++ writeAll version (before ++ [written]) tokens

@[simp] theorem idents_nil : idents [] = [] := rfl

@[simp] theorem idents_field (kind : Field) (value : kind.Value)
    (fits : Field.Fits .binary kind value) (tokens : List Token) :
    idents (field kind value fits :: tokens) = idents tokens := rfl

@[simp] theorem idents_ident (written : Written) (tokens : List Token) :
    idents (ident written :: tokens) = written :: idents tokens := rfl

@[simp] theorem idents_given (condition : Prop) [Decidable condition] (tokens : List Token) :
    idents (given condition tokens) = if condition then idents tokens else [] :=
  apply_ite idents _ _ _

theorem idents_append (tokens tokens' : List Token) :
    idents (tokens ++ tokens') = idents tokens ++ idents tokens' := by
  induction tokens with
  | nil => rfl
  | cons token tokens ih =>
    cases token with
    | field kind value fits => exact ih
    | ident written => exact congrArg (written :: ·) ih

theorem writeAll_append (version : SettledVersion) (before : List Written)
    (tokens tokens' : List Token) :
    writeAll version before (tokens ++ tokens') =
      writeAll version before tokens ++ writeAll version (before ++ idents tokens) tokens' := by
  induction tokens generalizing before with
  | nil => rw [List.nil_append, writeAll, List.nil_append, idents, List.append_nil]
  | cons token tokens ih =>
    cases token with
    | field kind value fits =>
      rw [List.cons_append, writeAll, writeAll, ih, List.append_assoc, idents]
    | ident written =>
      rw [List.cons_append, writeAll, writeAll, ih, idents]
      simp only [List.append_assoc, List.singleton_append]

end Token
end GameBox
