import GameBox.Identifier

/-!
# Histories of a table of identifiers

A table is used again and again: identifiers are read into it from one chunk or another, strings are
looked up in it, and it is reset between chunks.  A read may fail anywhere, and the table that it
leaves is the one that the next read begins with.

* `Operation`, `Table.apply`: one use of a table.
* `Table.applyAll`: a history.
* `wordDecoder`: reading an identifier that no version precedes.
-/

namespace GameBox
namespace Identifier

/-- One use of a table. -/
inductive Operation where
  /-- Reads an identifier from any place of any buffer. -/
  | read (encoding : Encoding) (data : Octets) (pos : Nat)
  /-- Looks a string up. -/
  | get (index : UInt32)
  | reset
  deriving DecidableEq

/-- Reads an identifier from its word on. -/
def wordDecoder : Decoder Table Identifier := do
  let raw ← Decoder.read .nat32
  let name ← nameOf raw
  pure ⟨name, raw⟩

namespace Table

/-- The table that one use leaves, whether or not it succeeds. -/
def apply (table : Table) : Operation → Table
  | .read encoding data pos => (decoder.run encoding data pos table).state
  | .get _ => table
  | .reset => table.reset

/-- The table that a history leaves. -/
def applyAll (table : Table) (history : List Operation) : Table :=
  history.foldl apply table

@[simp] theorem applyAll_nil (table : Table) : table.applyAll [] = table := rfl

@[simp] theorem applyAll_cons (table : Table) (operation : Operation) (history : List Operation) :
    table.applyAll (operation :: history) = (table.apply operation).applyAll history := rfl

end Table
end Identifier
end GameBox
