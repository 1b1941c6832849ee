import GameBox.Chunk.Data
import GameBox.Directory
import GameBox.Header
import GameBox.Reference.Table

/-!
# Files

A file consists of its header, the user data with the chunk table and the chunks, two counts, the
table of references, and the body.  Only what every file must have can fail as a whole: the header,
the user data being there, and the counts.  Each of the other parts has an outcome of its own, and
a chunk that fails has no influence on the others: it gets its own octets, and the identifiers are
forgotten before it.

* `Chunk`, `Chunk.decodeAll`: a decoded chunk, and the chunks of a table.
* `File`, `File.parse`: a file and its parts.
* `File.isComplete`: whether every part was decoded.
* `File.toJson`: the file as JSON.
-/

namespace GameBox

/-- A decoded chunk: its entry in the table, its record, and why decoding stopped early. -/
structure Chunk where
  entry : Entry
  data : ChunkData
  error : Option DecodeError

namespace Chunk

/-- Whether nothing stopped decoding a chunk. -/
def isComplete (chunk : Chunk) : Bool := chunk.error.isNone

/-- Decodes the chunks of entries in their order, leaving out those of no known kind.  One table
of identifiers goes through all of them; it is reset before each chunk. -/
def decodeAll (encoding : Encoding) (data : Octets) : Identifier.Table → List Entry → List Chunk
  | _, [] => []
  | idents, entry :: entries =>
    match entry.kind with
    | none => decodeAll encoding data idents entries
    | some kind =>
      let decoded := ChunkData.decode kind encoding (entry.payload data) idents.reset
      ⟨entry, decoded.chunk, decoded.error⟩ :: decodeAll encoding data decoded.idents entries

end Chunk

/-- A file, as far as it is decoded. -/
structure File where
  header : Header
  directory : Except DecodeError Directory
  chunks : List Chunk
  refTable : Except DecodeError RefTable
  body : Except DecodeError Body

namespace File

/-- Decodes the chunk table and the chunks.  The octets end with the user data, so that no chunk
reaches beyond. -/
def decodeUserData (header : Header) (data : Octets) (start : Nat) :
    Except DecodeError Directory × List Chunk :=
  if header.userDataSize = 0 then (.ok .empty, [])
  else
    let outcome := (Directory.decoder header.category).run header.storage.encoding data start ()
    match outcome.result with
    | .error error => (.error error, [])
    | .ok directory =>
      (.ok directory, Chunk.decodeAll header.storage.encoding data .empty directory.entries)

/-- Reads the table of references and what is known about the body.  A body behind a table that
was not read cannot be found, and that of a text file is not described. -/
def readTail (header : Header) (data : Octets) (pos : Nat) :
    Except DecodeError RefTable × Except DecodeError Body :=
  let table := RefTable.read header.storage.encoding header.version
    header.storage.refTableCompressed header.externalRefs data pos
  let body : Except DecodeError Body :=
    match header.storage.encoding, table.result with
    | .text, _ => .error .textBody
    | .binary, .error _ => .error .refTableUnavailable
    | .binary, .ok _ => (Body.read header data table.next).result
  (table.result, body)

/-- Decodes a file. -/
def parse (data : Octets) : Except DecodeError File := do
  let found := Header.read data 0
  let header ← found.result
  let start := found.next
  let userData := data.skip header.userDataSize.toNat start
  userData.result.mapError .read
  let finish := userData.next
  let (directory, chunks) := decodeUserData header (data.extract 0 finish) start
  let counts := header.readCounts data finish
  counts.result
  let (refTable, body) := readTail counts.state data counts.next
  return { header := counts.state, directory, chunks, refTable, body }

/-- The first decoded chunk with an id. -/
def chunk? (file : File) (id : UInt32) : Option Chunk :=
  file.chunks.find? fun chunk => chunk.entry.id = id

/-- Whether every part was decoded. -/
def isComplete (file : File) : Bool :=
  file.directory.isOk && file.chunks.all Chunk.isComplete && file.refTable.isOk && file.body.isOk

/-- The rows of all decoded chunks. -/
def rows (file : File) : List Row := file.chunks.flatMap fun chunk => chunk.data.rows

end File

/-! ## JSON -/

/-- The JSON form of a header. -/
def Header.toJson (header : Header) : Json :=
  let encoding : Encoding → Json
    | .binary => .string "Binary"
    | .text => .string "Text"
  .object
    [("version", .nat header.version.toNat),
     ("encoding", encoding header.storage.encoding),
     ("ref_table_compressed", .bool header.storage.refTableCompressed),
     ("body_compressed", .bool header.storage.bodyCompressed),
     ("storage_extra", .option jsonNat8 header.storage.extra),
     ("class_id", jsonNat32 header.classId),
     ("class_name", .option (fun entry => .string entry.name) header.class?),
     ("category", .string header.category.name),
     ("user_data_size", jsonNat32 header.userDataSize),
     ("num_nodes", jsonNat32 header.nodes),
     ("num_external_refs", jsonNat32 header.externalRefs)]

/-- The JSON form of an entry of the chunk table; its kind is null if it is not known. -/
def Entry.toJson (entry : Entry) : Json :=
  .object
    [("id", jsonNat32 entry.id),
     ("size", jsonNat32 entry.size),
     ("offset", jsonNat32 entry.offset),
     ("kind", .option (fun kind => .string kind.name) entry.kind)]

/-- The JSON form of a chunk table. -/
def Directory.toJson (directory : Directory) : Json :=
  .object [("entries", .array (directory.entries.map Entry.toJson))]

/-- The JSON form of a body: its sizes, but not its octets. -/
def Body.toJson : Body → Json
  | .compressed uncompressedSize compressedSize =>
    .single "Compressed"
      (.object
        [("uncompressed_size", jsonNat32 uncompressedSize),
         ("compressed_size", jsonNat32 compressedSize)])
  | .uncompressed size => .single "Uncompressed" (.object [("len", .nat size)])

/-- The JSON form of a decoded chunk; its error is null if there is none. -/
def Chunk.toJson (chunk : Chunk) : Json :=
  .object
    [("record", chunk.entry.toJson),
     ("data", chunk.data.toJson),
     ("error", .option (fun error => .string error.message) chunk.error)]

namespace File

/-- A part of a file: its value, or the message of its error. -/
def partJson {α : Type} (toJson : α → Json) : Except DecodeError α → Json
  | .ok value => .single "ok" (toJson value)
  | .error error => .single "error" (.string error.message)

/-- The JSON form of a file, part by part. -/
def toJson (file : File) : Json :=
  .object
    [("header", file.header.toJson),
     ("directory", partJson Directory.toJson file.directory),
     ("chunks", .array (file.chunks.map Chunk.toJson)),
     ("ref_table", partJson RefTable.toJson file.refTable),
     ("body", partJson Body.toJson file.body)]

end File
end GameBox
