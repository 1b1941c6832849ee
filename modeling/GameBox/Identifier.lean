import GameBox.Collection
import GameBox.Decoder

/-!
# Identifiers

A chunk writes a string that it uses again only once.  An identifier is a word: it may stand for
no value, for a collection by its number, for a new string that follows and is learned, or for a
string learned before, counted from one.  The first identifier is preceded by a version, and so is
every later one as long as the version is below three.

* `Identifier.Table`: what was learned so far.
* `Identifier.Form`, `Identifier.form`: what a word asks for.
* `Identifier.decoder`: reading one identifier.
-/

namespace GameBox

/-- An identifier: the name it stands for, and its word. -/
structure Identifier where
  name : String
  raw : UInt32
  deriving DecidableEq, Repr

namespace Identifier

/-- The strings that a chunk has written, and the version of its identifiers, which is zero until
it is read. -/
structure Table where
  version : UInt32 := 0
  entries : Array String := #[]
  deriving DecidableEq, Repr, Inhabited

namespace Table

/-- A table before anything is read. -/
def empty : Table := {}

/-- Forgets the version and every learned string. -/
def reset (table : Table) : Table := { table with version := 0, entries := #[] }

/-- The learned string at a position, counted from one. -/
def get? (table : Table) (index : UInt32) : Option String :=
  if index = 0 then none else table.entries[index.toNat - 1]?

/-- The table with one more string; the empty string is never learned. -/
def learn (table : Table) (name : String) : Table :=
  if name.isEmpty then table else { table with entries := table.entries.push name }

/-- A table that is reset is as before anything is read, whatever it had learned. -/
@[simp] theorem reset_eq_empty (table : Table) : table.reset = empty := rfl

end Table

/-- What the word of an identifier asks for. -/
inductive Form where
  | unassigned
  | collection (id : UInt32)
  /-- A string that follows. -/
  | inline
  /-- A string learned before. -/
  | earlier (index : UInt32)
  deriving DecidableEq, Repr

/-- The bits of a word that hold a number. -/
def indexMask : UInt32 := 0x3FFFFFFF

/-- The bits of a word that tell a string from a collection. -/
def stringMask : UInt32 := 0xC0000000

/-- What a word asks for.  At version two every string is written out. -/
def form (version raw : UInt32) : Form :=
  if raw = Collection.unassigned then .unassigned
  else if raw &&& stringMask = 0 then .collection (raw &&& indexMask)
  else if version = 2 ∨ raw &&& indexMask = 0 then .inline
  else .earlier (raw &&& indexMask)

/-- Reads the version unless it is known for good. -/
def settleVersion : Decoder Table Unit := do
  let table ← Decoder.state
  if table.version < 3 then
    let version ← Decoder.read .nat32
    if version < 2 then .fail (.identifierVersion version)
    else Decoder.modify fun table => { table with version }
  else
    pure ()

/-- Reads what a word asks for. -/
def nameOf (raw : UInt32) : Decoder Table String := do
  let table ← Decoder.state
  match form table.version raw with
  | .unassigned => pure ""
  | .collection id => pure (Collection.name id)
  | .inline =>
    let name ← Decoder.read .string
    Decoder.modify (·.learn name)
    pure name
  | .earlier index => pure ((table.get? index).getD "")

/-- Reads one identifier. -/
def decoder : Decoder Table Identifier := do
  settleVersion
  let raw ← Decoder.read .nat32
  let name ← nameOf raw
  pure ⟨name, raw⟩

end Identifier
end GameBox
