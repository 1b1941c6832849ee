import GameBox.File
import GameBox.Proofs.Directory.Table
import GameBox.Proofs.Header.Reading

/-!
# The parts of a file

Parsing a file goes from part to part, and only three of them can fail as a whole.  This module
takes a parse apart once, so that no later proof has to follow it again.

* `File.parse_eq_ok_iff`: a file is parsed exactly if its header, its user data and its counts are
  there; the statement names every part.
* `File.parse_eq_error_iff`: the three ways in which parsing fails.
* `File.userDataStart`, `File.userDataBlock`: where the user data stands, and the octets that its
  chunks are cut from.
* `File.decodeUserData_of_parse`, `File.run_of_directory`: the chunk table and the chunks are what
  the block holds.
* `File.size_userDataBlock_lt`: the block of a binary file is short.
-/

namespace GameBox

variable {data : Octets} {file : File} {directory : Directory}

namespace File

/-- Where the user data begins. -/
def userDataStart (data : Octets) : Nat := (Header.read data 0).next

/-- The octets up to the end of the user data, which its chunks are cut from. -/
def userDataBlock (file : File) (data : Octets) : Octets :=
  data.extract 0 (userDataStart data + file.header.userDataSize.toNat)

/-- A file is parsed exactly if its header, its user data and its counts are there. -/
theorem parse_eq_ok_iff :
    parse data = .ok file ↔ ∃ header start next,
      Header.read data 0 = ⟨.ok header, start⟩ ∧
      start + header.userDataSize.toNat ≤ data.size ∧
      header.readCounts data (start + header.userDataSize.toNat) = ⟨.ok (), next, file.header⟩ ∧
      decodeUserData header (data.extract 0 (start + header.userDataSize.toNat)) start =
        (file.directory, file.chunks) ∧
      readTail file.header data next = (file.refTable, file.body) := by
  unfold parse
  cases hheader : Header.read data 0 with
  | mk result start =>
  cases result with
  | error e => simp [bind, Except.bind]
  | ok header =>
  by_cases hfits : start + header.userDataSize.toNat ≤ data.size
  · have hskip : data.skip header.userDataSize.toNat start =
        ⟨.ok (), start + header.userDataSize.toNat⟩ := if_pos hfits
    cases hcounts : header.readCounts data (start + header.userDataSize.toNat) with
    | mk result next counted =>
    cases result with
    | error e =>
      simp [bind, Except.bind, Except.mapError, hskip, hcounts]
    | ok _ =>
      simp only [bind, Except.bind, Except.mapError, hskip, hcounts, pure, Except.pure,
        Except.ok.injEq]
      constructor
      · rintro rfl
        exact ⟨header, start, next, rfl, hfits, hcounts, rfl, rfl⟩
      · rintro ⟨header', start', next', hheader', -, hcounts', huser, htail⟩
        simp only [Found.mk.injEq, Except.ok.injEq] at hheader'
        obtain ⟨rfl, rfl⟩ := hheader'
        rw [hcounts] at hcounts'
        simp only [Outcome.mk.injEq, true_and] at hcounts'
        obtain ⟨rfl, rfl⟩ := hcounts'
        rw [huser, htail]
  · have hskip : data.skip header.userDataSize.toNat start =
        ⟨.error (.truncated header.userDataSize.toNat (data.left start)), start⟩ := if_neg hfits
    simp only [bind, Except.bind, Except.mapError, hskip]
    constructor
    · simp
    · rintro ⟨header', start', next', hheader', hfits', -⟩
      simp only [Found.mk.injEq, Except.ok.injEq] at hheader'
      obtain ⟨rfl, rfl⟩ := hheader'
      exact absurd hfits' hfits

/-- Parsing fails with the error of the header, or because the user data is cut off, or with the
error of the counts. -/
theorem parse_eq_error_iff {error : DecodeError} :
    parse data = .error error ↔ (Header.read data 0).result = .error error ∨
      ∃ header start, Header.read data 0 = ⟨.ok header, start⟩ ∧
        (data.size < start + header.userDataSize.toNat ∧
            error = .read (.truncated header.userDataSize.toNat (data.left start)) ∨
          start + header.userDataSize.toNat ≤ data.size ∧
            (header.readCounts data (start + header.userDataSize.toNat)).result =
              .error error) := by
  unfold parse
  cases hheader : Header.read data 0 with
  | mk result start =>
  cases result with
  | error e => simp [bind, Except.bind]
  | ok header =>
  by_cases hfits : start + header.userDataSize.toNat ≤ data.size
  · have hskip : data.skip header.userDataSize.toNat start =
        ⟨.ok (), start + header.userDataSize.toNat⟩ := if_pos hfits
    cases hcounts : header.readCounts data (start + header.userDataSize.toNat) with
    | mk result next counted =>
    cases result with
    | error e => simp [bind, Except.bind, Except.mapError, hskip, hcounts, hfits]
    | ok _ => simp [bind, Except.bind, Except.mapError, pure, Except.pure, hskip, hcounts, hfits]
  · have hskip : data.skip header.userDataSize.toNat start =
        ⟨.error (.truncated header.userDataSize.toNat (data.left start)), start⟩ := if_neg hfits
    have hlt := Nat.lt_of_not_le hfits
    simp [bind, Except.bind, Except.mapError, hskip, hlt, eq_comm]

/-- If there is user data, a table that is read from its beginning is the chunk table. -/
theorem decodeUserData_of_run {header : Header} {block : Octets} {start next : Nat} {s : Unit}
    (hsize : header.userDataSize ≠ 0)
    (hrun : (Directory.decoder header.category).run header.storage.encoding block start () =
      ⟨.ok directory, next, s⟩) :
    decodeUserData header block start = (.ok directory,
      Chunk.decodeAll header.storage.encoding block .empty directory.entries) := by
  rw [decodeUserData, if_neg hsize, hrun]

/-- The chunk table and the chunks are decoded from the block, and the block is whole. -/
theorem decodeUserData_of_parse (h : parse data = .ok file) :
    decodeUserData file.header (file.userDataBlock data) (userDataStart data) =
        (file.directory, file.chunks) ∧
      (file.userDataBlock data).size = userDataStart data + file.header.userDataSize.toNat := by
  obtain ⟨header, start, next, hheader, hfits, hcounts, huser, -⟩ := parse_eq_ok_iff.1 h
  obtain ⟨nodes, externalRefs, hcounted⟩ := Header.eq_of_readCounts hcounts
  have hstart : userDataStart data = start := by rw [userDataStart, hheader]
  have hblock : file.userDataBlock data =
      data.extract 0 (start + header.userDataSize.toNat) := by
    rw [userDataBlock, hstart, hcounted]
  constructor
  · rw [hstart, hblock, hcounted]
    exact huser
  · rw [hblock, hstart, hcounted, Array.size_extract]
    simp only
    omega

/-- A binary header is short and limits the user data, so that positions in the block are far below
`2 ^ 32`. -/
theorem size_userDataBlock_lt (h : parse data = .ok file)
    (hbinary : file.header.storage.encoding = .binary) :
    (file.userDataBlock data).size < UInt32.size := by
  obtain ⟨header, start, next, hheader, -, hcounts, -⟩ := parse_eq_ok_iff.1 h
  obtain ⟨nodes, externalRefs, hcounted⟩ := Header.eq_of_readCounts hcounts
  have hbounds := Header.bounds_of_read hheader (by rw [← hbinary, hcounted])
  have hsize : file.header.userDataSize.toNat < Header.userDataLimit.toNat := by
    rw [hcounted]
    exact UInt32.lt_iff_toNat_lt.mp hbounds.2
  have hlimit : Header.userDataLimit.toNat = 4194304 := rfl
  have hword : UInt32.size = 4294967296 := rfl
  rw [(decodeUserData_of_parse h).2, userDataStart, hheader]
  simp only
  omega

/-- A chunk table that was read is that of a file without user data, or it stands at the beginning
of the block. -/
theorem run_of_directory (h : parse data = .ok file) (hdirectory : file.directory = .ok directory) :
    (directory = .empty ∧ file.chunks = []) ∨
      ∃ next, (Directory.decoder file.header.category).run file.header.storage.encoding
          (file.userDataBlock data) (userDataStart data) () = ⟨.ok directory, next, ()⟩ ∧
        file.chunks = Chunk.decodeAll file.header.storage.encoding (file.userDataBlock data)
          .empty directory.entries := by
  obtain ⟨huser, -⟩ := decodeUserData_of_parse h
  unfold decodeUserData at huser
  split at huser
  · left
    rw [hdirectory] at huser
    simp only [Prod.mk.injEq, Except.ok.injEq] at huser
    exact ⟨huser.1.symm, huser.2.symm⟩
  · right
    cases hrun : (Directory.decoder file.header.category).run file.header.storage.encoding
        (file.userDataBlock data) (userDataStart data) () with
    | mk result next s =>
    rw [hrun, hdirectory] at huser
    cases result with
    | error e => simp at huser
    | ok directory' =>
      simp only [Prod.mk.injEq, Except.ok.injEq] at huser
      obtain ⟨rfl, hchunks⟩ := huser
      exact ⟨next, rfl, hchunks.symm⟩

end File
end GameBox
