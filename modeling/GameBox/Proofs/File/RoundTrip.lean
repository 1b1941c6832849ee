import GameBox.File.Write
import GameBox.Proofs.Directory.RoundTrip
import GameBox.Proofs.File.Parts
import GameBox.Proofs.Reference.Locality

/-!
# Files that were written

A binary file is five parts behind each other, and only its chunk table says how long anything is.
Each part is read from where the reader of the part before it stopped, so one width that is read
differently from how it is written moves everything behind it.

## The parts

Every part has a statement of its own, about the octets of the part between other octets.  The user
data is the part that is read out of order: its table is read from a block that ends with the user
data, while its payloads are cut out of the whole file, where the counts, the references and the
body stand behind them.

* `BinaryFile.header_write`, `BinaryFile.decodeUserData_write`: the parts up to the counts.
* `BinaryFile.readCounts_write`, `BinaryFile.readTail_write`: the parts from the counts on.

## The whole

`BinaryFile.parse_write` puts the parts together, and `File.parse_eq_ok_iff` is where they fit: it
names the position at which each part begins.
-/

namespace GameBox

/-! ## The body -/

theorem BodySection.reads_sizesDecoder (uncompressedSize compressedSize : UInt32) :
    Decoder.Reads .binary Body.sizesDecoder ()
      (octets 4 uncompressedSize.toNat ++ octets 4 compressedSize.toNat)
      (.compressed uncompressedSize compressedSize) () :=
  (Decoder.Reads.read (Field.reads_nat32 uncompressedSize) ()).bind
    ((Decoder.Reads.read (Field.reads_nat32 compressedSize) ()).finish (.done _ _))

/-- What is known about a body that was written at the end of a file. -/
theorem BodySection.read_write {header : Header} {body : BodySection}
    (hbinary : header.storage.encoding = .binary)
    (hcompressed : header.storage.bodyCompressed = body.isCompressed) (front : List UInt8) :
    (Body.read header (front ++ body.write).toArray front.length).result = .ok body.info := by
  rw [Body.read, hbinary, hcompressed]
  cases body with
  | compressed uncompressedSize compressedSize content =>
    have hsizes := reads_sizesDecoder uncompressedSize compressedSize front content
    rw [List.append_assoc front] at hsizes
    simp only [isCompressed, write, hsizes, ↓reduceIte, info]
  | uncompressed content =>
    simp [isCompressed, write, info, Octets.left]

namespace BinaryFile

variable {file : BinaryFile}

/-! ## Sizes -/

theorem IsValid.length_header_le (h : file.IsValid) : file.header.write.length ≤ 17 := by
  have hread := Header.read_write h.header h.binary [] []
  rw [List.nil_append, List.append_nil, List.length_nil, Nat.zero_add] at hread
  have hbounds := Header.bounds_of_read hread h.binary
  omega

theorem IsValid.length_userData_lt (h : file.IsValid) :
    (Directory.write file.chunks).length < 2 ^ 22 := by
  have hlimit : Header.userDataLimit.toNat = 2 ^ 22 := rfl
  rw [← h.userDataSize, ← hlimit]
  exact UInt32.lt_iff_toNat_lt.mp h.header.2.2.2.1

theorem IsValid.userDataSize_eq_zero_iff (h : file.IsValid) :
    file.header.userDataSize = 0 ↔ file.chunks = [] := by
  rw [← UInt32.toNat_inj, h.userDataSize, UInt32.toNat_zero, List.length_eq_zero_iff,
    Directory.write_eq_nil_iff]

/-! ## Up to the counts -/

/-- The header as it is before the counts are read. -/
def early (file : BinaryFile) : Header := { file.header with nodes := 0, externalRefs := 0 }

/-- The octets up to the end of the user data, which the chunks are cut from. -/
def block (file : BinaryFile) : List UInt8 := file.header.write ++ Directory.write file.chunks

theorem write_eq_block_append (file : BinaryFile) :
    file.write =
      file.block ++ (file.header.writeCounts ++ file.tableOctets ++ file.body.write) := by
  simp only [write, block, List.append_assoc]

theorem IsValid.length_block (h : file.IsValid) :
    file.header.write.length + file.early.userDataSize.toNat = file.block.length := by
  rw [block, List.length_append, ← h.userDataSize]
  rfl

theorem header_write (h : file.IsValid) :
    Header.read file.write.toArray 0 = ⟨.ok file.early, file.header.write.length⟩ := by
  have hread := Header.read_write h.header h.binary []
    (Directory.write file.chunks ++ (file.header.writeCounts ++ file.tableOctets ++
      file.body.write))
  rw [List.nil_append, ← List.append_assoc, List.length_nil, Nat.zero_add] at hread
  rw [write_eq_block_append]
  exact hread

theorem extract_block (file : BinaryFile) :
    file.write.toArray.extract 0 file.block.length = file.block.toArray := by
  have hcut := Octets.extract_middle [] file.block
    (file.header.writeCounts ++ file.tableOctets ++ file.body.write)
  rw [List.nil_append, List.length_nil, Nat.zero_add, ← write_eq_block_append] at hcut
  exact hcut

/-- The chunk table is read from the block, and its entries cut the payloads out of the whole
file. -/
theorem decodeUserData_write (h : file.IsValid) :
    ∃ directory chunks,
      File.decodeUserData file.early file.block.toArray file.header.write.length =
        (.ok directory, chunks) ∧
      List.Forall₂ (Directory.Frames file.header.category file.write.toArray)
        directory.entries file.chunks := by
  by_cases hchunks : file.chunks = []
  · refine ⟨.empty, [], ?_, ?_⟩
    · exact if_pos (h.userDataSize_eq_zero_iff.2 hchunks)
    · rw [hchunks]
      exact .nil
  · have hblock : file.block = file.header.write ++ Directory.writeTable file.chunks ++
        file.chunks.flatMap FramedChunk.payload := by
      rw [block, Directory.write_of_ne_nil hchunks, List.append_assoc]
    have hlimit := h.length_userData_lt
    have hsmall : ∀ chunk ∈ file.chunks, chunk.payload.length < 2 ^ 31 := by
      intro chunk hchunk
      have hle := Directory.length_payload_le hchunk
      omega
    have hword : file.block.length < UInt32.size := by
      have hsize : UInt32.size = 2 ^ 32 := rfl
      have hheader := h.length_header_le
      rw [block, List.length_append]
      omega
    have hrun := Directory.run_writeTable file.header.category
      (List.length_pos_of_ne_nil hchunks) h.chunkCount hsmall
      file.header.write (file.chunks.flatMap FramedChunk.payload)
    rw [hblock] at hword
    have hframes := Directory.forall₂_frames_layOut file.header.category
      (file.header.write ++ Directory.writeTable file.chunks)
      (file.header.writeCounts ++ file.tableOctets ++ file.body.write) hword
    rw [← hblock] at hrun hframes
    rw [← write_eq_block_append] at hframes
    rw [← h.binary] at hrun
    have hsize : file.early.userDataSize ≠ 0 := fun hzero =>
      hchunks (h.userDataSize_eq_zero_iff.1 hzero)
    exact ⟨_, _, File.decodeUserData_of_run hsize hrun, hframes⟩

/-! ## From the counts on -/

theorem readCounts_write (h : file.IsValid) :
    file.early.readCounts file.write.toArray file.block.length =
      ⟨.ok (), (file.block ++ file.header.writeCounts).length, file.header⟩ := by
  have hoctets : file.header.writeCounts = octets 4 file.header.nodes.toNat ++
      octets 4 file.header.externalRefs.toNat := by
    rw [Header.writeCounts, h.binary]
    rfl
  have hencoding : file.early.storage.encoding = .binary := h.binary
  have hcounts := Header.reads_countsDecoder file.early file.header.nodes h.externalRefs
    file.block (file.tableOctets ++ file.body.write)
  rw [← hoctets, List.append_assoc, ← List.append_assoc file.header.writeCounts,
    ← write_eq_block_append, ← List.length_append] at hcounts
  rw [Header.readCounts, hencoding, hcounts]
  rfl

/-- What stands behind the counts is read back at the end of a file. -/
theorem readTail_write (h : file.IsValid) (front : List UInt8) :
    File.readTail file.header (front ++ file.tableOctets ++ file.body.write).toArray front.length =
      (.ok file.table, .ok file.body.info) := by
  have htable : RefTable.read .binary file.header.version
      file.header.storage.refTableCompressed file.header.externalRefs
      (front ++ file.tableOctets ++ file.body.write).toArray front.length =
      ⟨.ok file.table, (front ++ file.tableOctets).length⟩ := by
    by_cases hrefs : file.header.externalRefs = 0
    · obtain ⟨hoctets, htable⟩ := h.withoutRefs hrefs
      rw [RefTable.read, if_pos hrefs, hoctets, htable, List.append_nil]
    · obtain ⟨hcompressed, hread⟩ := h.withRefs hrefs
      rw [hcompressed, List.length_append]
      exact RefTable.read_append hread hrefs front file.body.write
  have hbody := BodySection.read_write h.binary h.bodyCompressed (front ++ file.tableOctets)
  simp only [File.readTail, h.binary, htable, hbody]

/-! ## The whole file -/

/-- **A file that was written is read back.**  Whatever the version, the letters, the chunks, the
references and the body are: the header has the fields that were written, the table lists the
chunks in their order and cuts out their payloads, the table of references is the one that its
octets stand for, and the body is described as it is. -/
theorem parse_write (h : file.IsValid) :
    ∃ parsed directory, File.parse file.write.toArray = .ok parsed ∧
      parsed.header = file.header ∧ parsed.directory = .ok directory ∧
      List.Forall₂ (Directory.Frames file.header.category file.write.toArray)
        directory.entries file.chunks ∧
      parsed.refTable = .ok file.table ∧ parsed.body = .ok file.body.info := by
  obtain ⟨directory, chunks, huser, hframes⟩ := decodeUserData_write h
  have htail := readTail_write h (file.block ++ file.header.writeCounts)
  refine ⟨⟨file.header, .ok directory, chunks, .ok file.table, .ok file.body.info⟩, directory,
    File.parse_eq_ok_iff.2 ⟨file.early, file.header.write.length,
      (file.block ++ file.header.writeCounts).length, header_write h, ?_, ?_, ?_, ?_⟩,
    rfl, rfl, hframes, rfl, rfl⟩
  · rw [h.length_block, write_eq_block_append, List.size_toArray]
    exact (List.sublist_append_left _ _).length_le
  · rw [h.length_block]
    exact readCounts_write h
  · rw [h.length_block, extract_block]
    exact huser
  · have hdata : file.write = file.block ++ file.header.writeCounts ++ file.tableOctets ++
        file.body.write := by
      rw [write_eq_block_append]
      simp only [List.append_assoc]
    rw [hdata]
    exact htail

/-- A file with every part: three chunks, one of them empty and one flagged, a reference to a file
in a folder, and a compressed body. -/
def sample : BinaryFile where
  header := ⟨6, ⟨.binary, false, true, some 0x52⟩, 0x03043000, 33, 7, 1⟩
  chunks := [⟨0x03043004, false, [1, 0, 0, 0]⟩, ⟨0x03043007, true, []⟩, ⟨5, false, [0xFF]⟩]
  tableOctets :=
    [1, 0, 0, 0, 1, 0, 0, 0, 1, 0, 0, 0, 0x62, 0, 0, 0, 0, 1, 0, 0, 0, 1, 0, 0, 0, 0x61, 2, 0, 0, 0,
      1, 0, 0, 0, 1, 0, 0, 0]
  table :=
    { ancestorLevel := 1
      folders := [⟨"b", "b\\", []⟩]
      refs := [⟨1, .file "a", 2, some true, some 1, none⟩] }
  body := .compressed 9 2 [0xAA, 0xBB]

theorem parse_write_sample :
    sample.IsValid ∧ ∃ parsed directory, File.parse sample.write.toArray = .ok parsed ∧
      parsed.header = sample.header ∧ parsed.directory = .ok directory ∧
      List.Forall₂ (Directory.Frames .challenge sample.write.toArray)
        directory.entries sample.chunks ∧
      parsed.refTable = .ok sample.table ∧ parsed.body = .ok (.compressed 9 2) := by
  have hvalid : sample.IsValid :=
    { header := ⟨by decide, by decide, by decide, by decide, by decide⟩
      binary := rfl
      userDataSize := rfl
      chunkCount := by decide
      externalRefs := by decide
      withoutRefs := fun hzero => absurd hzero (by decide)
      withRefs := fun _ => ⟨rfl, rfl⟩
      bodyCompressed := rfl }
  exact ⟨hvalid, parse_write hvalid⟩

end BinaryFile
end GameBox
