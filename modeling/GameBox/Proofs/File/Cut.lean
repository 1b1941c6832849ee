import GameBox.Proofs.File.Parts
import GameBox.Proofs.Header.Locality
import GameBox.Proofs.Reading.Extension
import GameBox.Proofs.Reference.Locality

/-!
# Files that were cut

A file may be cut off at any octet, by a broken download for instance.  What is left of it means
what it meant before: the parts in front of the cut are the same, and each part behind it is
reported as truncated and not as wrong.

## The argument

Everything outside the chunks is read by local decoders, so that on a longer buffer each of them
gives the same outcome or was truncated before (`Decoder.IsLocal.run_append`).  This is said of the
header, the counts, the table of references and the sizes of the body, in the order of the file.
The chunks need nothing of the kind.  They are cut from a block that ends with the user data, and a
file whose user data is cut off is not parsed at all.

One outcome depends on octets that are not read, the size of an uncompressed body.  It loses what
the file lost.

* `File.IsCut`: what is left of a file.
* `File.parse_cut`: parsing what is left.
-/

namespace GameBox

variable {data more : Octets} {pos : Nat}

/-! ## The parts of a longer file -/

namespace Header

theorem read_append (data more : Octets) (pos : Nat) :
    read (data ++ more) pos = read data pos ∨ IsTruncated (read data pos).result := by
  rcases isLocal_preludeDecoder.run_append .binary data more pos () with hsame | htruncated
  · rw [read, read, hsame]
    cases hprelude : preludeDecoder.run .binary data pos () with
    | mk result start s =>
    cases result with
    | error error => exact .inl rfl
    | ok prelude =>
      obtain ⟨version, storage⟩ := prelude
      rcases (isLocal_fieldsDecoder version storage).run_append storage.encoding data more start ()
        with hsame | htruncated
      · left
        dsimp only
        rw [hsame]
      · exact .inr htruncated
  · right
    obtain ⟨error, hresult, hkind⟩ := htruncated
    cases hprelude : preludeDecoder.run .binary data pos () with
    | mk result start s =>
    rw [hprelude] at hresult
    obtain rfl : result = .error error := hresult
    rw [read, hprelude]
    exact ⟨error, rfl, hkind⟩

theorem readCounts_append (header : Header) (data more : Octets) (pos : Nat) :
    header.readCounts (data ++ more) pos = header.readCounts data pos ∨
      IsTruncated (header.readCounts data pos).result :=
  isLocal_countsDecoder.run_append _ data more pos header

end Header

namespace RefTable

theorem read_longer (encoding : Encoding) (version : UInt16) (compressed : Bool) (count : UInt32)
    (data more : Octets) (pos : Nat) :
    read encoding version compressed count (data ++ more) pos =
        read encoding version compressed count data pos ∨
      IsTruncated (read encoding version compressed count data pos).result := by
  unfold read
  split
  · exact .inl rfl
  · split
    · exact .inl rfl
    · rcases (isLocal_decoder version count).run_append encoding data more pos ()
        with hsame | htruncated
      · left
        dsimp only
        rw [hsame]
      · exact .inr htruncated

end RefTable

namespace Body

/-- What is known about the body is the same, or its sizes are cut off, or it is all octets that are
left and loses those that the buffer lost. -/
theorem read_append (more : Octets) (header : Header) (hpos : pos ≤ data.size) :
    (read header data pos).result = (read header (data ++ more) pos).result ∨
      IsTruncated (read header data pos).result ∨
      ∃ size size', (read header (data ++ more) pos).result = .ok (.uncompressed size) ∧
        (read header data pos).result = .ok (.uncompressed size') ∧ size' + more.size = size := by
  unfold read
  split
  · exact .inl rfl
  · split
    · rcases isLocal_sizesDecoder.run_append .binary data more pos () with hsame | htruncated
      · left
        dsimp only
        rw [hsame]
      · exact .inr (.inl htruncated)
    · refine .inr (.inr ⟨_, _, rfl, rfl, ?_⟩)
      rw [Octets.left, Octets.left, Array.size_append]
      omega

/-- The sizes of a body know nothing of the table in front of it. -/
theorem read_ne_refTableUnavailable (header : Header) (data : Octets) (pos : Nat) :
    (read header data pos).result ≠ .error .refTableUnavailable := by
  unfold read
  split
  · simp
  · split
    · simp only [sizesDecoder, bind, Decoder.bind, Decoder.read, Decoder.run]
      split
      · split
        · simp [pure]
        · simp
      · simp
    · simp

end Body

/-! ## What is left of a file -/

namespace File

variable {file file' : File}

/-- What is left of a file after some octets at its end are lost.  The parts in front of the cut
are the same, and each of the others is truncated. -/
structure IsCut (file file' : File) (lost : Nat) : Prop where
  header : file'.header = file.header
  directory : file'.directory = file.directory
  chunks : file'.chunks = file.chunks
  refTable : file'.refTable = file.refTable ∨ IsTruncated file'.refTable
  body : file'.body = file.body ∨ IsTruncated file'.body ∨
    file'.body = .error .refTableUnavailable ∨
    ∃ size size', file.body = .ok (.uncompressed size) ∧
      file'.body = .ok (.uncompressed size') ∧ size' + lost = size
  /-- The body cannot be found exactly if it stands behind a table that was not read. -/
  unavailable : file'.body = .error .refTableUnavailable ↔
    file'.header.storage.encoding = .binary ∧ ∃ error, file'.refTable = .error error

/-! ### The table of references and the body -/

theorem readTail_refTable_append (header : Header) (data more : Octets) (pos : Nat) :
    (readTail header data pos).1 = (readTail header (data ++ more) pos).1 ∨
      IsTruncated (readTail header data pos).1 := by
  rcases RefTable.read_longer header.storage.encoding header.version
    header.storage.refTableCompressed header.externalRefs data more pos with hsame | htruncated
  · left
    simp only [readTail, hsame]
  · exact .inr htruncated

theorem readTail_body_append (header : Header) (more : Octets) (hpos : pos ≤ data.size) :
    (readTail header data pos).2 = (readTail header (data ++ more) pos).2 ∨
      IsTruncated (readTail header data pos).2 ∨
      (readTail header data pos).2 = .error .refTableUnavailable ∨
      ∃ size size', (readTail header (data ++ more) pos).2 = .ok (.uncompressed size) ∧
        (readTail header data pos).2 = .ok (.uncompressed size') ∧ size' + more.size = size := by
  cases hencoding : header.storage.encoding with
  | text =>
    left
    simp only [readTail, hencoding]
  | binary =>
    have hlonger := RefTable.read_longer .binary header.version
      header.storage.refTableCompressed header.externalRefs data more pos
    cases htable : RefTable.read .binary header.version header.storage.refTableCompressed
      header.externalRefs data pos with
    | mk result next =>
    rw [htable] at hlonger
    cases result with
    | error error =>
      right; right; left
      simp only [readTail, hencoding, htable]
    | ok table =>
      -- A table that was read is read from the longer file, and the bodies begin at one position.
      have hnext := (RefTable.bounds_of_read hpos htable).2
      have hmore : RefTable.read .binary header.version header.storage.refTableCompressed
          header.externalRefs (data ++ more) pos = ⟨.ok table, next⟩ := by
        rcases hlonger with hsame | ⟨error, hresult, -⟩
        · exact hsame
        · cases hresult
      simp only [readTail, hencoding, htable, hmore]
      rcases Body.read_append more header hnext with hsame | htruncated | hsizes
      · exact .inl hsame
      · exact .inr (.inl htruncated)
      · exact .inr (.inr (.inr hsizes))

theorem unavailable_readTail_iff (header : Header) (data : Octets) (pos : Nat) :
    (readTail header data pos).2 = .error .refTableUnavailable ↔
      header.storage.encoding = .binary ∧ ∃ error, (readTail header data pos).1 = .error error := by
  cases hencoding : header.storage.encoding with
  | text => simp [readTail, hencoding]
  | binary =>
    cases htable : RefTable.read .binary header.version header.storage.refTableCompressed
      header.externalRefs data pos with
    | mk result next =>
    cases result with
    | error error => simp [readTail, hencoding, htable]
    | ok table =>
      simp [readTail, hencoding, htable, Body.read_ne_refTableUnavailable]

/-! ### The whole file -/

theorem parse_append (h : parse (data ++ more) = .ok file) :
    (∃ error, parse data = .error error ∧ error.kind = .truncated) ∨
      ∃ file', parse data = .ok file' ∧ file.IsCut file' more.size := by
  obtain ⟨header, start, next, hheader, hfits, hcounts, huser, htail⟩ := parse_eq_ok_iff.1 h
  rcases Header.read_append data more 0 with hsame | ⟨error, hresult, hkind⟩
  case inr => exact .inl ⟨error, parse_eq_error_iff.2 (.inl hresult), hkind⟩
  rw [hheader] at hsame
  by_cases hblock : start + header.userDataSize.toNat ≤ data.size
  case neg =>
    refine .inl ⟨_, parse_eq_error_iff.2 (.inr ⟨header, start, hsame.symm, .inl ⟨?_, rfl⟩⟩), rfl⟩
    exact Nat.lt_of_not_le hblock
  rcases header.readCounts_append data more (start + header.userDataSize.toNat)
    with hsame' | ⟨error, hresult, hkind⟩
  case inr =>
    have hparse : parse data = .error error :=
      parse_eq_error_iff.2 (.inr ⟨header, start, hsame.symm, .inr ⟨hblock, hresult⟩⟩)
    exact .inl ⟨error, hparse, hkind⟩
  rw [hcounts] at hsame'
  -- Header, user data and counts lie in front of the cut, so that the file is parsed.
  have hnext := (Header.bounds_of_readCounts hblock hsame'.symm).2
  rw [Octets.extract_append_of_le hblock] at huser
  refine .inr ⟨⟨file.header, file.directory, file.chunks, (readTail file.header data next).1,
    (readTail file.header data next).2⟩, ?_, ?_⟩
  · exact parse_eq_ok_iff.2 ⟨header, start, next, hsame.symm, hblock, hsame'.symm, huser, rfl⟩
  · have htable := readTail_refTable_append file.header data more next
    have hbody := readTail_body_append file.header more hnext
    rw [htail] at htable hbody
    exact ⟨rfl, rfl, rfl, htable, hbody, unavailable_readTail_iff file.header data next⟩

/-- **Cutting a file only loses what is cut off.**  What is left of a file that was parsed is
reported as truncated, or it is parsed with the same header, chunk table and chunks; its references
are the same or truncated, and so is its body, up to the octets that are not there any more. -/
theorem parse_cut (h : parse data = .ok file) {length : Nat} (hlength : length ≤ data.size) :
    (∃ error, parse (data.extract 0 length) = .error error ∧ error.kind = .truncated) ∨
      ∃ file', parse (data.extract 0 length) = .ok file' ∧
        file.IsCut file' (data.size - length) := by
  have hdata : data = data.extract 0 length ++ data.extract length data.size := by
    rw [Array.extract_append_extract]
    simp [hlength]
  have hsize : (data.extract length data.size).size = data.size - length := by
    rw [Array.size_extract, Nat.min_self]
  rw [hdata] at h
  rw [← hsize]
  exact parse_append h

/-- A file of version three without user data, with a reference to a resource and a body of three
octets.  The table of references stands from 20 to 40. -/
def withReference : Octets :=
  #[0x47, 0x42, 0x58, 0x03, 0x00, 0x42, 0x55, 0x55, 0x00, 0x30, 0x04, 0x03,
    0x01, 0x00, 0x00, 0x00, 0x01, 0x00, 0x00, 0x00,
    0x02, 0x00, 0x00, 0x00, 0x00, 0x00, 0x00, 0x00,
    0x04, 0x00, 0x00, 0x00, 0x07, 0x00, 0x00, 0x00, 0x01, 0x00, 0x00, 0x00,
    0xAA, 0xBB, 0xCC]

/-- A cut in the flags of the reference leaves the header. -/
theorem parse_cut_withReference :
    ∃ file file', parse withReference = .ok file ∧ 30 ≤ withReference.size ∧
      file.body = .ok (.uncompressed 3) ∧
      parse (withReference.extract 0 30) = .ok file' ∧ file.IsCut file' 13 ∧
      file'.refTable = .error (.read (.truncated 4 2)) ∧
      file'.body = .error .refTableUnavailable := by
  have hparse : parse withReference = .ok
      { header := ⟨3, ⟨.binary, false, false, none⟩, 0x03043000, 0, 1, 1⟩
        directory := .ok .empty
        chunks := []
        refTable := .ok ⟨2, [], [⟨4, .resource 7, 1, none, none, none⟩]⟩
        body := .ok (.uncompressed 3) } := rfl
  have hleft : parse (withReference.extract 0 30) = .ok
      { header := ⟨3, ⟨.binary, false, false, none⟩, 0x03043000, 0, 1, 1⟩
        directory := .ok .empty
        chunks := []
        refTable := .error (.read (.truncated 4 2))
        body := .error .refTableUnavailable } := rfl
  have hsize : 30 ≤ withReference.size := by decide
  rcases parse_cut hparse hsize with ⟨error, herror, -⟩ | ⟨file', hfile', hcut⟩
  · rw [hleft] at herror
    cases herror
  · rw [hleft] at hfile'
    cases hfile'
    exact ⟨_, _, hparse, hsize, rfl, hleft, hcut, rfl, rfl⟩

end File
end GameBox
