import GameBox.Chunk.Collection
import GameBox.Chunk.Community
import GameBox.Chunk.Item
import GameBox.Chunk.Kind
import GameBox.Chunk.Map
import GameBox.Chunk.Plain
import GameBox.Chunk.Replay

/-!
# Chunk records

What a header chunk holds: one record type for each kind of chunks.  Decoding always yields a
record; if it fails, the record holds what was read before.

* `ChunkKind.Record`, `ChunkKind.decoder`: the record of a kind, and how it is read.
* `ChunkData`: a kind and its record.
* `ChunkData.decode`: decoding octets as a chunk of a kind.
-/

namespace GameBox

namespace ChunkKind

/-- The record of a kind of chunks. -/
abbrev Record : ChunkKind → Type
  | tmDesc => MapDescription
  | common => MapSummary
  | version => VersionOnly
  | community => Community
  | thumbnail => Thumbnail
  | author => Author
  | vskDesc => Regatta
  | replayVersion => ReplaySummary
  | collectorDesc => CatalogEntry
  | icon => Icon
  | time => ModificationTime
  | skin => SkinDescription
  | itemType => ItemType
  | gameSkin => SkinFolders
  | mood => DecorationMood
  | unknown => Undecoded
  | oldDesc => LegacyCollection
  | collectionDesc => CollectionDescription
  | folders => FolderLayout
  | menuIcons => MenuIcons
  | profile => PlayerProfile
  | folderDep => FolderDependencies

/-- The record before anything is read. -/
def blank : (kind : ChunkKind) → kind.Record
  | tmDesc => ({} : MapDescription)
  | common => ({} : MapSummary)
  | version => ({} : VersionOnly)
  | community => ({} : Community)
  | thumbnail => ({} : Thumbnail)
  | author => ({} : Author)
  | vskDesc => ({} : Regatta)
  | replayVersion => ({} : ReplaySummary)
  | collectorDesc => ({} : CatalogEntry)
  | icon => ({} : Icon)
  | time => ({} : ModificationTime)
  | skin => ({} : SkinDescription)
  | itemType => ({} : ItemType)
  | gameSkin => ({} : SkinFolders)
  | mood => ({} : DecorationMood)
  | unknown => ({} : Undecoded)
  | oldDesc => ({} : LegacyCollection)
  | collectionDesc => ({} : CollectionDescription)
  | folders => ({} : FolderLayout)
  | menuIcons => ({} : MenuIcons)
  | profile => ({} : PlayerProfile)
  | folderDep => ({} : FolderDependencies)

/-- How a chunk of a kind is read. -/
def decoder : (kind : ChunkKind) → Decoder (Draft kind.Record) Unit
  | tmDesc => MapDescription.layout.decoder
  | common => MapSummary.layout.decoder
  | version => VersionOnly.layout.decoder
  | community => Community.decoder
  | thumbnail => Thumbnail.decoder
  | author => Author.layout.decoder
  | vskDesc => Regatta.layout.decoder
  | replayVersion => ReplaySummary.layout.decoder
  | collectorDesc => CatalogEntry.layout.decoder
  | icon => Icon.decoder
  | time => ModificationTime.layout.decoder
  | skin => SkinDescription.layout.decoder
  | itemType => ItemType.layout.decoder
  | gameSkin => SkinFolders.layout.decoder
  | mood => DecorationMood.decoder
  | unknown => Undecoded.decoder
  | oldDesc => LegacyCollection.layout.decoder
  | collectionDesc => CollectionDescription.layout.decoder
  | folders => FolderLayout.layout.decoder
  | menuIcons => MenuIcons.decoder
  | profile => PlayerProfile.layout.decoder
  | folderDep => FolderDependencies.decoder

/-- The rows of a record. -/
def rows : (kind : ChunkKind) → kind.Record → List Row
  | tmDesc => MapDescription.rows
  | common => MapSummary.rows
  | version => VersionOnly.rows
  | community => Community.rows
  | thumbnail => Thumbnail.rows
  | author => Author.rows
  | vskDesc => Regatta.rows
  | replayVersion => ReplaySummary.rows
  | collectorDesc => CatalogEntry.rows
  | icon => Icon.rows
  | time => ModificationTime.rows
  | skin => SkinDescription.rows
  | itemType => ItemType.rows
  | gameSkin => SkinFolders.rows
  | mood => DecorationMood.rows
  | unknown => Undecoded.rows
  | oldDesc => LegacyCollection.rows
  | collectionDesc => CollectionDescription.rows
  | folders => FolderLayout.rows
  | menuIcons => MenuIcons.rows
  | profile => PlayerProfile.rows
  | folderDep => FolderDependencies.rows

/-- The JSON form of a record. -/
def recordJson : (kind : ChunkKind) → kind.Record → Json
  | tmDesc => MapDescription.toJson
  | common => MapSummary.toJson
  | version => VersionOnly.toJson
  | community => Community.toJson
  | thumbnail => Thumbnail.toJson
  | author => Author.toJson
  | vskDesc => Regatta.toJson
  | replayVersion => ReplaySummary.toJson
  | collectorDesc => CatalogEntry.toJson
  | icon => Icon.toJson
  | time => ModificationTime.toJson
  | skin => SkinDescription.toJson
  | itemType => ItemType.toJson
  | gameSkin => SkinFolders.toJson
  | mood => DecorationMood.toJson
  | unknown => Undecoded.toJson
  | oldDesc => LegacyCollection.toJson
  | collectionDesc => CollectionDescription.toJson
  | folders => FolderLayout.toJson
  | menuIcons => MenuIcons.toJson
  | profile => PlayerProfile.toJson
  | folderDep => FolderDependencies.toJson

end ChunkKind

/-- The record of a chunk, with its kind. -/
structure ChunkData where
  kind : ChunkKind
  record : kind.Record

namespace ChunkData

/-- What is shown of a chunk. -/
def rows (chunk : ChunkData) : List Row := chunk.kind.rows chunk.record

/-- The JSON form of a chunk: the name of its kind, and its record. -/
def toJson (chunk : ChunkData) : Json :=
  .object
    [("kind", .string chunk.kind.name), ("fields", chunk.kind.recordJson chunk.record)]

/-- How decoding a chunk ended: its record, why decoding stopped early if it did, the position it
reached and the identifiers it left. -/
structure Decoded where
  chunk : ChunkData
  error : Option DecodeError
  next : Nat
  idents : Identifier.Table

/-- The error of a result that has one. -/
def error? {α : Type} : Except DecodeError α → Option DecodeError
  | .ok _ => none
  | .error error => some error

/-- Decodes octets as a chunk of a kind, with the identifiers learned before. -/
def decode (kind : ChunkKind) (encoding : Encoding) (data : Octets)
    (idents : Identifier.Table) : Decoded :=
  let outcome := kind.decoder.run encoding data 0 ⟨idents, kind.blank⟩
  { chunk := ⟨kind, outcome.state.record⟩
    error := error? outcome.result
    next := outcome.next
    idents := outcome.state.idents }

@[simp] theorem kind_chunk_decode (kind : ChunkKind) (encoding : Encoding) (data : Octets)
    (idents : Identifier.Table) : (decode kind encoding data idents).chunk.kind = kind := rfl

end ChunkData
end GameBox
