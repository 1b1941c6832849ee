import GameBox.Class
import GameBox.Decoder

/-!
# The table of header chunks

The user data begins with a table: a count, and for every chunk its id and its size, whose top bit
is a flag.  The payloads follow back to back in the order of the table.  Their offsets are not
stored; they are the running sums of the sizes, in arithmetic of 32 bits, from the end of the
table on.

* `Entry`, `Entry.payload`: a chunk of the table and its octets.
* `Directory`, `Directory.decoder`: the table.
* `Directory.layOut`: the offsets.
-/

namespace GameBox

/-- A chunk in the table. -/
structure Entry where
  id : UInt32
  /-- The size of the payload, without the flag. -/
  size : UInt32
  /-- The position of the payload in the file. -/
  offset : UInt32
  /-- How the chunk is decoded, if its id is known for the category of the file. -/
  kind : Option ChunkKind
  deriving DecidableEq, Repr

namespace Entry

/-- The payload as far as the buffer holds it. -/
def payload (entry : Entry) (data : Octets) : Octets :=
  data.extract entry.offset.toNat (entry.offset.toNat + entry.size.toNat)

/-- The position behind the payload. -/
def finish (entry : Entry) : Nat := entry.offset.toNat + entry.size.toNat

end Entry

/-- The header chunks of a file in their order. -/
structure Directory where
  entries : List Entry
  deriving DecidableEq, Repr, Inhabited

namespace Directory

/-- The table of a file without user data. -/
def empty : Directory := ⟨[]⟩

/-- The most chunks that a table may have. -/
def maxChunks : UInt32 := 255

/-- The bits of a size; the remaining one is a flag. -/
def sizeMask : UInt32 := 0x7FFFFFFF

/-- The octets of an entry of a binary table. -/
def entrySize : Nat := 8

/-- Places payloads back to back from an offset on. -/
def layOut (category : Category) : (offset : UInt32) → List (UInt32 × UInt32) → List Entry
  | _, [] => []
  | offset, (id, size) :: rest =>
    ⟨id, size, offset, category.chunkKind? id⟩ :: layOut category (offset + size) rest

/-- Reads the id and the size of a chunk. -/
def entryDecoder : Decoder Unit (UInt32 × UInt32) := do
  let id ← Decoder.read .nat32
  let size ← Decoder.read .nat32
  pure (id, size &&& sizeMask)

/-- Reads the count of chunks, which is not zero. -/
def countDecoder : Decoder Unit UInt32 := do
  let count ← Decoder.read .nat32
  if count = 0 then .fail .noChunks
  else if maxChunks < count then
    Decoder.exceeded .headerChunkCount count.toNat (maxChunks.toNat + 1)
  else pure count

/-- Reads the table.  The first payload is placed as far behind the count as a binary table is
long. -/
def decoder (category : Category) : Decoder Unit Directory := do
  let count ← countDecoder
  let base ← Decoder.position .done
  let rows ← entryDecoder.times count.toNat
  pure ⟨layOut category (UInt32.ofNat (base + count.toNat * entrySize)) rows⟩

/-- The entries that have a decoder. -/
def known (directory : Directory) : List Entry :=
  directory.entries.filter fun entry => entry.kind.isSome

/-- The first entry with an id. -/
def find? (directory : Directory) (id : UInt32) : Option Entry :=
  directory.entries.find? fun entry => entry.id = id

@[simp] theorem length_layOut (category : Category) (offset : UInt32)
    (rows : List (UInt32 × UInt32)) :
    (layOut category offset rows).length = rows.length := by
  induction rows generalizing offset with
  | nil => rfl
  | cons row rest ih => simp [layOut, ih]

end Directory
end GameBox
