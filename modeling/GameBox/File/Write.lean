import GameBox.File
import GameBox.Header.Write

/-!
# Writing files

A binary file, part by part, as octets: the header, the user data, the counts, the table of
references and the body.  The table is given by its octets; what they mean is for the reader of
tables to say.

* `BodySection`: a body as it is written, and what is known about it.
* `BinaryFile`, `BinaryFile.write`: a file as it is written.
* `BinaryFile.IsValid`: which parts make up a file.
-/

namespace GameBox

/-- A body as it is written. -/
inductive BodySection where
  /-- Behind the two sizes. -/
  | compressed (uncompressedSize compressedSize : UInt32) (content : List UInt8)
  | uncompressed (content : List UInt8)

namespace BodySection

/-- Whether a body stands behind its sizes. -/
def isCompressed : BodySection → Bool
  | compressed .. => true
  | uncompressed _ => false

/-- The octets of a body. -/
def write : BodySection → List UInt8
  | compressed uncompressedSize compressedSize content =>
    octets 4 uncompressedSize.toNat ++ octets 4 compressedSize.toNat ++ content
  | uncompressed content => content

/-- What is known about a body: its two sizes, or how long it is. -/
def info : BodySection → Body
  | compressed uncompressedSize compressedSize _ => .compressed uncompressedSize compressedSize
  | uncompressed content => .uncompressed content.length

end BodySection

/-- A binary file as it is written. -/
structure BinaryFile where
  /-- The header with the two counts. -/
  header : Header
  chunks : List FramedChunk
  /-- The octets of the table of references. -/
  tableOctets : List UInt8
  /-- The table that they stand for. -/
  table : RefTable
  body : BodySection

namespace BinaryFile

/-- The octets of a file. -/
def write (file : BinaryFile) : List UInt8 :=
  file.header.write ++ Directory.write file.chunks ++ file.header.writeCounts ++
    file.tableOctets ++ file.body.write

/-- Which parts make up a file. -/
structure IsValid (file : BinaryFile) : Prop where
  header : file.header.IsValid
  binary : file.header.storage.encoding = .binary
  userDataSize : file.header.userDataSize.toNat = (Directory.write file.chunks).length
  chunkCount : file.chunks.length ≤ Directory.maxChunks.toNat
  externalRefs : file.header.externalRefs < Header.externalRefLimit
  /-- A file without references has no octets for their table, whatever its letter is. -/
  withoutRefs : file.header.externalRefs = 0 → file.tableOctets = [] ∧ file.table = .empty
  /-- A file with references has a table that is read from its octets alone, to their end. -/
  withRefs : file.header.externalRefs ≠ 0 → file.header.storage.refTableCompressed = false ∧
    RefTable.read .binary file.header.version false file.header.externalRefs
      file.tableOctets.toArray 0 = ⟨.ok file.table, file.tableOctets.length⟩
  bodyCompressed : file.header.storage.bodyCompressed = file.body.isCompressed

end BinaryFile
end GameBox
