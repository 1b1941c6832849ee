import GameBox.Proofs.File.Parts
import GameBox.Proofs.Header.Locality
import GameBox.Proofs.Reading.Agreement
import GameBox.Proofs.Reference.Locality

/-!
# The user data and the rest of a file

A file is read with one position, and the chunks are decoded on the way from octets that anybody may
have written.  Neither part has an influence on the other, and both directions compare two files.

## From the outside in

The chunk table and the chunks are decoded from a copy of the file that ends with the user data.  So
two files that agree up to that end have the same chunks, whatever stands behind
(`File.userData_eq_of_agree`).

## From the inside out

What stands behind the user data is read from its end on, and this end is known from the header.
Two files that differ in the user data only have the same header, and agree from the end of the user
data on, so that every later read finds the same (`Decoder.run_eq_of_agreeFrom`).  The errors are
the same, too (`File.parse_error_of_agreeOutside`, `File.rest_eq_of_agreeOutside`).  Nothing at all
is assumed about the user data.

`File.userData_apart` puts the two directions together.
-/

namespace GameBox

open Octets

variable {data data' : Octets} {start pos next : Nat} {header : Header}

/-! ## Reads behind a position -/

theorem Header.readCounts_eq_of_agreeFrom (h : AgreeFrom start data data') (hpos : start ≤ pos)
    (header : Header) : header.readCounts data pos = header.readCounts data' pos :=
  Decoder.run_eq_of_agreeFrom h hpos _ _ _

theorem RefTable.read_eq_of_agreeFrom (h : AgreeFrom start data data') (hpos : start ≤ pos)
    (encoding : Encoding) (version : UInt16) (compressed : Bool) (count : UInt32) :
    read encoding version compressed count data pos =
      read encoding version compressed count data' pos := by
  unfold read
  rw [Decoder.run_eq_of_agreeFrom h hpos]

theorem Body.read_eq_of_agreeFrom (h : AgreeFrom start data data') (hpos : start ≤ pos)
    (header : Header) : read header data pos = read header data' pos := by
  have hleft : data.left pos = data'.left pos := by rw [left, left, h.size]
  unfold read
  rw [Decoder.run_eq_of_agreeFrom h hpos, hleft]

namespace File

variable {file file' : File}

theorem readTail_eq_of_agreeFrom (h : AgreeFrom start data data') (hpos : start ≤ pos)
    (hsize : pos ≤ data.size) (header : Header) :
    readTail header data pos = readTail header data' pos := by
  have hread := RefTable.read_eq_of_agreeFrom h hpos header.storage.encoding header.version
    header.storage.refTableCompressed header.externalRefs
  cases htable : RefTable.read header.storage.encoding header.version
    header.storage.refTableCompressed header.externalRefs data pos with
  | mk result next =>
  rw [htable] at hread
  cases result with
  | error error =>
    simp only [readTail, htable, ← hread]
    cases header.storage.encoding with
    | text => rfl
    | binary => rfl
  | ok table =>
    have hnext : pos ≤ next := (RefTable.bounds_of_read hsize htable).1
    have hbody := Body.read_eq_of_agreeFrom h (hpos.trans hnext) header
    simp only [readTail, htable, ← hread, hbody]

/-! ## The block of the user data -/

/-- Where the user data ends.  A file without a header has none. -/
def userDataEnd (data : Octets) : Nat :=
  match (Header.read data 0).result with
  | .ok header => userDataStart data + header.userDataSize.toNat
  | .error _ => userDataStart data

theorem userDataStart_of_read (h : Header.read data 0 = ⟨.ok header, next⟩) :
    userDataStart data = next := by
  rw [userDataStart, h]

theorem userDataEnd_of_read (h : Header.read data 0 = ⟨.ok header, next⟩) :
    userDataEnd data = next + header.userDataSize.toNat := by
  rw [userDataEnd, userDataStart, h]

theorem read_of_agree_before (h : Header.read data 0 = ⟨.ok header, next⟩)
    (hagree : ∀ i, i < next → data[i]? = data'[i]?) :
    Header.read data' 0 = ⟨.ok header, next⟩ :=
  Header.read_of_extract_eq h (extract_eq_of_before hagree).symm

/-- Files that differ in the user data of one of them have the same header and the same block, or
there is no header, and they are the same. -/
theorem read_of_agreeOutside
    (hagree : AgreeOutside (userDataStart data) (userDataEnd data) data data') :
    data = data' ∨ ∃ header next, Header.read data 0 = ⟨.ok header, next⟩ ∧
      Header.read data' 0 = ⟨.ok header, next⟩ ∧
      AgreeFrom (next + header.userDataSize.toNat) data data' := by
  cases hheader : Header.read data 0 with
  | mk result next =>
  cases result with
  | error error =>
    have hempty : userDataEnd data ≤ userDataStart data := by rw [userDataEnd, hheader]
    exact .inl (hagree.eq_of_le hempty)
  | ok header =>
    rw [userDataStart_of_read hheader, userDataEnd_of_read hheader] at hagree
    exact .inr ⟨header, next, rfl, read_of_agree_before hheader hagree.before, hagree.agreeFrom⟩

/-! ## From the outside in -/

/-- What stands behind the user data is not seen by the chunks. -/
theorem userData_eq_of_agree (h : parse data = .ok file) (h' : parse data' = .ok file')
    (hagree : ∀ i, i < userDataEnd data → data[i]? = data'[i]?) :
    file'.directory = file.directory ∧ file'.chunks = file.chunks := by
  obtain ⟨header, start, next, hheader, -, -, huser, -⟩ := parse_eq_ok_iff.1 h
  obtain ⟨header', start', next', hheader', -, -, huser', -⟩ := parse_eq_ok_iff.1 h'
  rw [userDataEnd_of_read hheader] at hagree
  have hsame : Header.read data' 0 = ⟨.ok header, start⟩ :=
    read_of_agree_before hheader fun i hi => hagree i (by omega)
  rw [hheader'] at hsame
  obtain ⟨rfl, rfl⟩ : header' = header ∧ start' = start := by simpa using hsame
  rw [← extract_eq_of_before hagree, huser, Prod.mk.injEq] at huser'
  exact ⟨huser'.1.symm, huser'.2.symm⟩

/-! ## From the inside out -/

/-- Whatever the user data is, the errors are the same. -/
theorem parse_error_of_agreeOutside {error : DecodeError}
    (hagree : AgreeOutside (userDataStart data) (userDataEnd data) data data') :
    parse data = .error error ↔ parse data' = .error error := by
  rcases read_of_agreeOutside hagree with rfl | ⟨header, start, hheader, hheader', hfrom⟩
  · rfl
  · have hcounts := Header.readCounts_eq_of_agreeFrom hfrom (Nat.le_refl _) header
    have hleft : data.left start = data'.left start := by rw [left, left, hfrom.size]
    rw [parse_eq_error_iff, parse_eq_error_iff, hheader, hheader']
    simp only [Found.mk.injEq, Except.ok.injEq, reduceCtorEq, false_or]
    constructor
    · rintro ⟨_, _, ⟨rfl, rfl⟩, hrest⟩
      rw [hfrom.size, hleft, hcounts] at hrest
      exact ⟨_, _, ⟨rfl, rfl⟩, hrest⟩
    · rintro ⟨_, _, ⟨rfl, rfl⟩, hrest⟩
      rw [← hfrom.size, ← hleft, ← hcounts] at hrest
      exact ⟨_, _, ⟨rfl, rfl⟩, hrest⟩

/-- Whatever the user data is, the header with the counts, the table of references and the body are
the same. -/
theorem rest_eq_of_agreeOutside
    (hagree : AgreeOutside (userDataStart data) (userDataEnd data) data data')
    (h : parse data = .ok file) (h' : parse data' = .ok file') :
    file'.header = file.header ∧ file'.refTable = file.refTable ∧ file'.body = file.body := by
  obtain ⟨header, start, next, hheader, hfits, hcounts, -, htail⟩ := parse_eq_ok_iff.1 h
  obtain ⟨header', start', next', hheader', -, hcounts', -, htail'⟩ := parse_eq_ok_iff.1 h'
  rcases read_of_agreeOutside hagree with rfl | ⟨_, _, hread, hread', hfrom⟩
  · rw [h] at h'
    cases h'
    exact ⟨rfl, rfl, rfl⟩
  · rw [hheader] at hread
    rw [hheader'] at hread'
    cases hread
    cases hread'
    -- Both files go on at the end of the user data.
    have hsame := Header.readCounts_eq_of_agreeFrom hfrom (Nat.le_refl _) header
    rw [hcounts, hcounts', Outcome.mk.injEq] at hsame
    obtain ⟨-, hnext, hcounted⟩ := hsame
    have hbounds := Header.bounds_of_readCounts hfits hcounts
    have hrest := readTail_eq_of_agreeFrom hfrom hbounds.1 hbounds.2 file.header
    rw [htail, hnext, hcounted, htail', Prod.mk.injEq] at hrest
    exact ⟨hcounted.symm, hrest.1.symm, hrest.2.symm⟩

/-- **The user data and the rest of a file are apart.**  Files that agree up to the end of the user
data have the same chunk table and the same chunks.  Files that differ in the user data only are
both parsed or fail with the same error, and have the same header, references and body. -/
theorem userData_apart (data data' : Octets) :
    (∀ file file', parse data = .ok file → parse data' = .ok file' →
      (∀ i, i < userDataEnd data → data[i]? = data'[i]?) →
        file'.directory = file.directory ∧ file'.chunks = file.chunks) ∧
      (AgreeOutside (userDataStart data) (userDataEnd data) data data' →
        (∀ error, parse data = .error error ↔ parse data' = .error error) ∧
        ∀ file file', parse data = .ok file → parse data' = .ok file' →
          file'.header = file.header ∧ file'.refTable = file.refTable ∧ file'.body = file.body) :=
  ⟨fun _ _ h h' hagree => userData_eq_of_agree h h' hagree, fun hagree =>
    ⟨fun _ => parse_error_of_agreeOutside hagree, fun _ _ h h' =>
      rest_eq_of_agreeOutside hagree h h'⟩⟩

/-- A map with one chunk.  The count of chunks stands at 17, the user data ends at 33, and the count
of nodes stands there. -/
def withChunk : Octets :=
  #[0x47, 0x42, 0x58, 0x06, 0x00, 0x42, 0x55, 0x55, 0x52, 0x00, 0x30, 0x04, 0x03,
    0x10, 0x00, 0x00, 0x00,
    0x01, 0x00, 0x00, 0x00, 0x04, 0x30, 0x04, 0x03, 0x04, 0x00, 0x00, 0x00,
    0x07, 0x00, 0x00, 0x00,
    0x05, 0x00, 0x00, 0x00, 0x00, 0x00, 0x00, 0x00, 0xAA, 0xBB]

/-- Another count of nodes leaves the chunk, and a chunk table without chunks leaves the rest. -/
theorem userData_apart_withChunk :
    (∃ file file', parse withChunk = .ok file ∧ parse (withChunk.setIfInBounds 33 6) = .ok file' ∧
      file'.header.nodes = 6 ∧ file'.directory = file.directory ∧ file'.chunks = file.chunks) ∧
    ∃ file file', parse withChunk = .ok file ∧ parse (withChunk.setIfInBounds 17 0) = .ok file' ∧
      file'.directory = .error .noChunks ∧ file'.header = file.header ∧
      file'.refTable = file.refTable ∧ file'.body = file.body := by
  have hparse : parse withChunk = .ok
      { header := ⟨6, ⟨.binary, false, false, some 0x52⟩, 0x03043000, 16, 5, 0⟩
        directory := .ok ⟨[⟨0x03043004, 4, 29, some .version⟩]⟩
        chunks := [⟨⟨0x03043004, 4, 29, some .version⟩,
          ⟨.version, ({ version := some 7 } : VersionOnly)⟩, none⟩]
        refTable := .ok .empty
        body := .ok (.uncompressed 2) } := rfl
  have hstart : userDataStart withChunk = 17 := rfl
  have hend : userDataEnd withChunk = 33 := rfl
  constructor
  · have hbehind : ∀ i, i < userDataEnd withChunk →
        withChunk[i]? = (withChunk.setIfInBounds 33 6)[i]? := by
      intro i hi
      rw [hend] at hi
      rw [Array.getElem?_setIfInBounds_ne (by omega)]
    obtain ⟨hdirectory, hchunks⟩ := (userData_apart _ _).1 _ _ hparse rfl hbehind
    exact ⟨_, _, hparse, rfl, rfl, hdirectory, hchunks⟩
  · have hagree : AgreeOutside (userDataStart withChunk) (userDataEnd withChunk) withChunk
        (withChunk.setIfInBounds 17 0) := by
      rw [hstart, hend]
      exact agreeOutside_set (by decide) (by decide) _ _
    obtain ⟨hheader, hrefTable, hbody⟩ := ((userData_apart _ _).2 hagree).2 _ _ hparse rfl
    exact ⟨_, _, hparse, rfl, rfl, hheader, hrefTable, hbody⟩

end File
end GameBox
