import GameBox.Proofs.File.Parts

/-!
# Chunks do not see each other

All chunks of a file are decoded with the same table of identifiers, in the order of the chunk
table.  A chunk may leave this table in any state: it learns strings, and it may fail between the
version of an identifier and its word.  What a chunk leaves is forgotten before the next one.

* `Chunk.alone`, `Chunk.alone?`: a chunk decoded by itself, with a new table of identifiers.
* `Chunk.decodeAll_eq_filterMap`: the chunks of a table are those decoded by themselves.
* `File.kind_of_mem`: the id of an entry and the category of the file determine its kind.
* `File.chunks_isolated`: the chunks of a file, and what is found for an id.
-/

namespace GameBox
namespace Chunk

variable {encoding : Encoding} {data : Octets} {entry : Entry} {chunk : Chunk}

/-- The chunk of an entry decoded by itself, as a chunk of a kind. -/
def alone (encoding : Encoding) (data : Octets) (entry : Entry) (kind : ChunkKind) : Chunk :=
  let decoded := ChunkData.decode kind encoding (entry.payload data) .empty
  ⟨entry, decoded.chunk, decoded.error⟩

/-- The chunk of an entry decoded by itself, if the entry has a kind. -/
def alone? (encoding : Encoding) (data : Octets) (entry : Entry) : Option Chunk :=
  entry.kind.map (alone encoding data entry)

theorem isSome_alone? (encoding : Encoding) (data : Octets) (entry : Entry) :
    (alone? encoding data entry).isSome = entry.kind.isSome :=
  Option.isSome_map

theorem entry_of_alone? (h : alone? encoding data entry = some chunk) : chunk.entry = entry := by
  obtain ⟨kind, -, rfl⟩ := Option.map_eq_some_iff.1 h
  rfl

/-- Whatever the chunks before it left behind, each chunk is decoded as if it were alone. -/
theorem decodeAll_eq_filterMap (encoding : Encoding) (data : Octets) (idents : Identifier.Table)
    (entries : List Entry) :
    decodeAll encoding data idents entries = entries.filterMap (alone? encoding data) := by
  -- The table is arbitrary, since the one that a chunk leaves depends on how it ended.
  induction entries generalizing idents with
  | nil => rfl
  | cons entry entries ih =>
    cases hkind : entry.kind with
    | none =>
      have hnone : alone? encoding data entry = none := by rw [alone?, hkind, Option.map_none]
      rw [decodeAll, hkind, List.filterMap_cons_none hnone]
      exact ih idents
    | some kind =>
      have hsome : alone? encoding data entry = some (alone encoding data entry kind) := by
        rw [alone?, hkind, Option.map_some]
      rw [decodeAll, hkind, List.filterMap_cons_some hsome]
      simp only [Identifier.Table.reset_eq_empty, ih]
      rfl

/-- There is one chunk for each entry that has a kind, in the order of the entries. -/
theorem map_entry_filterMap_alone? (encoding : Encoding) (data : Octets) (entries : List Entry) :
    (entries.filterMap (alone? encoding data)).map Chunk.entry =
      entries.filter fun entry => entry.kind.isSome := by
  rw [List.map_filterMap, ← List.filterMap_eq_filter]
  congr 1
  funext entry
  cases hkind : entry.kind <;> simp [alone?, alone, hkind, Option.guard]

end Chunk

namespace Directory

variable {category : Category} {id : UInt32}

theorem mem_of_find? {entries : List Entry} {entry : Entry}
    (h : (entries.find? fun entry => entry.id = id) = some entry) :
    entry ∈ entries ∧ entry.id = id :=
  ⟨List.mem_of_find?_eq_some h, by simpa using List.find?_some h⟩

/-- The first chunk with an id is that of the first entry with the id, as the kind of an entry
depends on its id only. -/
theorem find?_filterMap_alone? {entries : List Entry} (encoding : Encoding) (data : Octets)
    (hkind : ∀ entry ∈ entries, entry.kind = category.chunkKind? entry.id) :
    (entries.filterMap (Chunk.alone? encoding data)).find? (fun chunk => chunk.entry.id = id) =
      (entries.find? fun entry => entry.id = id).bind (Chunk.alone? encoding data) := by
  induction entries with
  | nil => rfl
  | cons entry entries ih =>
    have hrest := ih fun entry hentry => hkind entry (List.mem_cons_of_mem _ hentry)
    have hhead := hkind entry List.mem_cons_self
    by_cases hid : entry.id = id
    · rw [List.find?_cons_of_pos (by simpa using hid), Option.bind_some]
      cases halone : Chunk.alone? encoding data entry with
      | some chunk =>
        have hchunk := Chunk.entry_of_alone? halone
        rw [List.filterMap_cons_some halone, List.find?_cons_of_pos (by simpa [hchunk] using hid)]
      | none =>
        -- No other entry with the id has a kind either.
        rw [List.filterMap_cons_none halone, hrest, Option.bind_eq_none_iff]
        intro entry' hfind
        obtain ⟨hmem, hid'⟩ := mem_of_find? hfind
        rw [Chunk.alone?, Option.map_eq_none_iff] at halone ⊢
        rw [hkind entry' (List.mem_cons_of_mem _ hmem), hid', ← hid, ← hhead, halone]
    · rw [List.find?_cons_of_neg (by simpa using hid), ← hrest]
      cases halone : Chunk.alone? encoding data entry with
      | some chunk =>
        have hchunk := Chunk.entry_of_alone? halone
        rw [List.filterMap_cons_some halone, List.find?_cons_of_neg (by simpa [hchunk] using hid)]
      | none => rw [List.filterMap_cons_none halone]

/-- The first entry with an id has a chunk exactly if the id is known for the category. -/
theorem isSome_find?_bind_alone? {entries : List Entry} (encoding : Encoding) (data : Octets)
    (hkind : ∀ entry ∈ entries, entry.kind = category.chunkKind? entry.id) :
    ((entries.find? fun entry => entry.id = id).bind (Chunk.alone? encoding data)).isSome ↔
      (∃ entry ∈ entries, entry.id = id) ∧ (category.chunkKind? id).isSome := by
  cases hfind : entries.find? fun entry => entry.id = id with
  | none =>
    simp only [Option.bind_none, Option.isSome_none, Bool.false_eq_true, false_iff, not_and]
    rintro ⟨entry, hmem, hid⟩
    exact absurd hid (by simpa using List.find?_eq_none.1 hfind entry hmem)
  | some entry =>
    obtain ⟨hmem, hid⟩ := mem_of_find? hfind
    rw [Option.bind_some, Chunk.isSome_alone?, hkind entry hmem, hid]
    exact ⟨fun hknown => ⟨⟨entry, hmem, hid⟩, hknown⟩, fun h => h.2⟩

end Directory

namespace File

variable {data : Octets} {file : File} {directory : Directory}

/-- The id of an entry and the category of the file determine its kind. -/
theorem kind_of_mem (h : parse data = .ok file) (hdirectory : file.directory = .ok directory) :
    ∀ entry ∈ directory.entries, entry.kind = file.header.category.chunkKind? entry.id := by
  intro entry hentry
  rcases run_of_directory h hdirectory with ⟨rfl, -⟩ | ⟨next, hrun, -⟩
  · simp [Directory.empty] at hentry
  · obtain ⟨base, rows, -, -, -, -, hentries⟩ := Directory.exists_rows_of_run hrun
    rw [hentries] at hentry
    exact Directory.kind_of_mem_layOut hentry

theorem chunks_eq_filterMap (h : parse data = .ok file)
    (hdirectory : file.directory = .ok directory) :
    file.chunks = directory.entries.filterMap
      (Chunk.alone? file.header.storage.encoding (file.userDataBlock data)) := by
  rcases run_of_directory h hdirectory with ⟨rfl, hchunks⟩ | ⟨next, -, hchunks⟩
  · rw [hchunks]
    rfl
  · rw [hchunks, Chunk.decodeAll_eq_filterMap]

/-- **Chunks are isolated.**  The chunks of a file are those of the entries that have a kind, in
their order, and each is decoded from its own octets, as its own kind and with a new table of
identifiers.  What is found for an id is the chunk of the first entry with the id; there is one
exactly if the table has the id and the id is known for the category of the file. -/
theorem chunks_isolated (h : parse data = .ok file) (hdirectory : file.directory = .ok directory) :
    file.chunks = directory.entries.filterMap
        (Chunk.alone? file.header.storage.encoding (file.userDataBlock data)) ∧
      file.chunks.map Chunk.entry = directory.known ∧
      ∀ id,
        ((file.chunk? id).isSome ↔ (∃ entry ∈ directory.entries, entry.id = id) ∧
          (file.header.category.chunkKind? id).isSome) ∧
        ∀ chunk, file.chunk? id = some chunk → directory.find? id = some chunk.entry := by
  have hchunks := chunks_eq_filterMap h hdirectory
  have hkind := kind_of_mem h hdirectory
  have hchunk : ∀ id, file.chunk? id = (directory.find? id).bind
      (Chunk.alone? file.header.storage.encoding (file.userDataBlock data)) := by
    intro id
    rw [chunk?, hchunks]
    exact Directory.find?_filterMap_alone? _ _ hkind
  refine ⟨hchunks, ?_, fun id => ⟨?_, ?_⟩⟩
  · rw [hchunks]
    exact Chunk.map_entry_filterMap_alone? _ _ _
  · rw [hchunk]
    exact Directory.isSome_find?_bind_alone? _ _ hkind
  · intro chunk hfound
    rw [hchunk, Option.bind_eq_some_iff] at hfound
    obtain ⟨entry, hentry, halone⟩ := hfound
    rw [hentry, Chunk.entry_of_alone? halone]

/-- A map with two chunks of one id and an unknown one between them.  The first chunk learns a
string, refers to it and is cut off in an identifier; the second one refers to a string that it has
not learned, and is cut off, too. -/
def withCutOffChunks : Octets :=
  #[0x47, 0x42, 0x58, 0x06, 0x00, 0x42, 0x55, 0x55, 0x52, 0x00, 0x30, 0x04, 0x03,
    0x37, 0x00, 0x00, 0x00,
    0x03, 0x00, 0x00, 0x00,
    0x03, 0x30, 0x04, 0x03, 0x12, 0x00, 0x00, 0x00,
    0x05, 0x00, 0x00, 0x00, 0x00, 0x00, 0x00, 0x00,
    0x03, 0x30, 0x04, 0x03, 0x09, 0x00, 0x00, 0x00,
    0x00, 0x03, 0x00, 0x00, 0x00, 0x00, 0x00, 0x00, 0x40, 0x01, 0x00, 0x00, 0x00, 0x61,
    0x01, 0x00, 0x00, 0x40,
    0x00, 0x03, 0x00, 0x00, 0x00, 0x01, 0x00, 0x00, 0x40,
    0x01, 0x00, 0x00, 0x00, 0x00, 0x00, 0x00, 0x00]

/-- The string that the first chunk learned is not known to the second one. -/
theorem chunks_isolated_withCutOffChunks :
    ∃ file directory, parse withCutOffChunks = .ok file ∧ file.directory = .ok directory ∧
      file.chunks.map Chunk.entry = directory.known ∧
      file.chunks = directory.entries.filterMap
        (Chunk.alone? .binary (file.userDataBlock withCutOffChunks)) ∧
      file.chunks.map Chunk.data =
        [⟨.common, ({ uid := some "a", environment := some "a" } : MapSummary)⟩,
          ⟨.common, ({ uid := some "" } : MapSummary)⟩] ∧
      (file.chunk? 0x03043003).isSome := by
  have hparse : parse withCutOffChunks = .ok
      { header := ⟨6, ⟨.binary, false, false, some 0x52⟩, 0x03043000, 0x37, 1, 0⟩
        directory := .ok ⟨[⟨0x03043003, 18, 45, some .common⟩, ⟨5, 0, 63, none⟩,
          ⟨0x03043003, 9, 63, some .common⟩]⟩
        chunks :=
          [⟨⟨0x03043003, 18, 45, some .common⟩,
            ⟨.common, ({ uid := some "a", environment := some "a" } : MapSummary)⟩,
            some (.read (.truncated 4 0))⟩,
          ⟨⟨0x03043003, 9, 63, some .common⟩, ⟨.common, ({ uid := some "" } : MapSummary)⟩,
            some (.read (.truncated 4 0))⟩]
        refTable := .ok .empty
        body := .ok (.uncompressed 0) } := rfl
  obtain ⟨hchunks, hentries, hfind⟩ := chunks_isolated hparse rfl
  refine ⟨_, _, hparse, rfl, hentries, hchunks, rfl,
    (hfind _).1.2 ⟨⟨_, List.mem_cons_self, rfl⟩, ?_⟩⟩
  rfl

end File
end GameBox
