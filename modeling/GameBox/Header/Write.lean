import GameBox.Directory
import GameBox.Field.Write
import GameBox.Header

/-!
# Writing headers

The parts of a file up to the reference table, as octets: the header, the user data with its table
of chunks, and the two counts.

* `Header.write`: the header up to the user data.
* `Header.IsValid`: the headers that a file can have.
* `FramedChunk`, `Directory.write`: chunks as the user data of a binary file.
* `Header.writeCounts`: the counts behind the user data.
-/

namespace GameBox
namespace Header

/-- The octets that do not depend on the encoding: the magic, the version and the letters. -/
def writePrelude (header : Header) : List UInt8 :=
  magic ++ octets 2 header.version.toNat ++ header.storage.letters

/-- The size of the user data, which older versions do not write. -/
def writeUserDataSize (header : Header) : List UInt8 :=
  if header.version < 6 then []
  else Field.write header.storage.encoding .nat32 header.userDataSize

/-- The header up to the user data. -/
def write (header : Header) : List UInt8 :=
  header.writePrelude ++ Field.write header.storage.encoding .mask header.classId ++
    header.writeUserDataSize

/-- The counts behind the user data. -/
def writeCounts (header : Header) : List UInt8 :=
  Field.write header.storage.encoding .nat32 header.nodes ++
    Field.write header.storage.encoding .nat32 header.externalRefs

/-- The headers that a file can have: the version is supported, from version four on there is one
more storage octet, and the user data is not too large; before version six there is none. -/
def IsValid (header : Header) : Prop :=
  minVersion ≤ header.version ∧ header.version ≤ maxVersion ∧
    (header.storage.extra.isSome ↔ 4 ≤ header.version) ∧
    header.userDataSize < userDataLimit ∧ (header.version < 6 → header.userDataSize = 0)

end Header

/-- A chunk as it is written: its id, the flag beside its size, and its payload. -/
structure FramedChunk where
  id : UInt32
  flag : Bool := false
  payload : List UInt8
  deriving DecidableEq, Repr

/-- The size of a chunk and its flag, which is the top bit. -/
def FramedChunk.sizeWord (chunk : FramedChunk) : Nat :=
  chunk.payload.length + if chunk.flag then 0x80000000 else 0

namespace Directory

/-- The entry of a chunk in a binary table. -/
def writeEntry (chunk : FramedChunk) : List UInt8 :=
  octets 4 chunk.id.toNat ++ octets 4 chunk.sizeWord

/-- The binary table of chunks. -/
def writeTable (chunks : List FramedChunk) : List UInt8 :=
  octets 4 chunks.length ++ chunks.flatMap writeEntry

/-- Chunks as the user data of a binary file: the table, and the payloads back to back.  Without
chunks there is no user data. -/
def write (chunks : List FramedChunk) : List UInt8 :=
  if chunks.isEmpty then [] else writeTable chunks ++ chunks.flatMap FramedChunk.payload

end Directory
end GameBox
