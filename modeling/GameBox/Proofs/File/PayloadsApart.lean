import GameBox.Proofs.File.Parts
import Mathlib.Data.Nat.Find

/-!
# When payloads are apart

A decoder gets the octets of its own chunk.  Whether these are no one else's is a question about
offsets.  They are sums of sizes modulo `2 ^ 32`, every size may be as large as `2 ^ 31 - 1`, and
nothing compares a size with the block.  A payload is what of its octets the block holds.

## Unwrapped and wrapped entries

An entry is unwrapped if the end of the table and all sizes before the entry add up to less than
`2 ^ 32`.  The unwrapped entries come first, and their payloads lie behind the table, in order:
`occupies_iff_of_unwrapped`.

An entry that is wrapped begins at some place that says nothing.  If its payload is not empty, its
first octet lies in the table, or else it lies in the payload of an earlier entry, since the sums of
the sizes pass every place between the table and `2 ^ 32` on their way: `exists_occupies_of_passed`.

So payloads are apart exactly if those of all wrapped entries are empty, which is
`payloadsApart_iff`.
-/

namespace GameBox

/-- The payload of the entry contains this position of the block. -/
def Entry.Occupies (entry : Entry) (block : Octets) (p : Nat) : Prop :=
  entry.offset.toNat ≤ p ∧ p < entry.offset.toNat + (entry.payload block).size

theorem Entry.occupies_iff {entry : Entry} {block : Octets} {p : Nat} :
    entry.Occupies block p ↔
      entry.offset.toNat ≤ p ∧ p < entry.offset.toNat + entry.size.toNat ∧ p < block.size := by
  rw [Occupies, payload, Array.size_extract]
  omega

namespace Directory

/-- Payloads lie behind the table and within the block, and each lies behind all earlier ones. -/
structure PayloadsApart (entries : List Entry) (block : Octets) (tableEnd : Nat) : Prop where
  behindTable : ∀ entry ∈ entries, ∀ p, entry.Occupies block p → tableEnd ≤ p ∧ p < block.size
  ordered : entries.Pairwise fun entry after =>
    ∀ p q, entry.Occupies block p → after.Occupies block q → p < q

/-- Entries are placed back to back behind the table, modulo `2 ^ 32`. -/
def PlacedFrom (tableEnd : Nat) (entries : List Entry) : Prop :=
  ∀ i (h : i < entries.length),
    entries[i].offset.toNat = (tableEnd + sizesBefore entries i) % UInt32.size

variable {entries : List Entry} {block : Octets} {tableEnd i p : Nat}

theorem occupies_iff_of_unwrapped (hplaced : PlacedFrom tableEnd entries)
    (hi : i < entries.length) (hunwrapped : tableEnd + sizesBefore entries i < UInt32.size) :
    entries[i].Occupies block p ↔ tableEnd + sizesBefore entries i ≤ p ∧
      p < tableEnd + sizesBefore entries (i + 1) ∧ p < block.size := by
  rw [Entry.occupies_iff, hplaced i hi, Nat.mod_eq_of_lt hunwrapped, sizesBefore_succ hi,
    Nat.add_assoc]

/-- Payloads of unwrapped entries are apart. -/
theorem payloadsApart_of_unwrapped (hplaced : PlacedFrom tableEnd entries)
    (hempty : ∀ i (hi : i < entries.length), UInt32.size ≤ tableEnd + sizesBefore entries i →
      (entries[i].payload block).size = 0) :
    PayloadsApart entries block tableEnd := by
  have hoccupies : ∀ i (hi : i < entries.length) p, entries[i].Occupies block p →
      tableEnd + sizesBefore entries i ≤ p ∧ p < tableEnd + sizesBefore entries (i + 1) ∧
        p < block.size := by
    intro i hi p hp
    by_cases hwrapped : UInt32.size ≤ tableEnd + sizesBefore entries i
    · obtain ⟨hle, hlt⟩ := hp
      rw [hempty i hi hwrapped] at hlt
      omega
    · exact (occupies_iff_of_unwrapped hplaced hi (Nat.lt_of_not_le hwrapped)).1 hp
  constructor
  · intro entry hentry p hp
    obtain ⟨i, hi, rfl⟩ := List.getElem_of_mem hentry
    obtain ⟨hle, -, hlt⟩ := hoccupies i hi p hp
    exact ⟨by omega, hlt⟩
  · rw [List.pairwise_iff_getElem]
    intro i j hi hj hij p q hp hq
    have hmono := sizesBefore_mono entries (Nat.succ_le_of_lt hij)
    have hlt := (hoccupies i hi p hp).2.1
    have hle := (hoccupies j hj q hq).1
    rw [Nat.succ_eq_add_one] at hmono
    omega

/-- Every place from the end of the table on that sums of sizes have passed is occupied by an
earlier entry, as far as there is a block. -/
theorem exists_occupies_of_passed (hplaced : PlacedFrom tableEnd entries)
    (hblock : block.size < UInt32.size) (hi : i ≤ entries.length) (hle : tableEnd ≤ p)
    (hlt : p < block.size) (hpassed : p < tableEnd + sizesBefore entries i) :
    ∃ m, ∃ hm : m < entries.length, m < i ∧ entries[m].Occupies block p := by
  have hex : ∃ k, p < tableEnd + sizesBefore entries k := ⟨i, hpassed⟩
  -- The first sum that has passed the place belongs to the entry behind the one in question.
  have hfirst := Nat.find_spec hex
  have hleast : Nat.find hex ≤ i := Nat.find_min' hex hpassed
  cases hk : Nat.find hex with
  | zero =>
    rw [hk, sizesBefore_zero] at hfirst
    omega
  | succ m =>
    rw [hk] at hfirst hleast
    have hbefore : tableEnd + sizesBefore entries m ≤ p :=
      Nat.le_of_not_lt (Nat.find_min hex (by omega))
    have hm : m < entries.length := by omega
    refine ⟨m, hm, by omega, ?_⟩
    exact (occupies_iff_of_unwrapped hplaced hm (by omega)).2 ⟨hbefore, hfirst, hlt⟩

/-- If payloads are apart, those of wrapped entries are empty. -/
theorem empty_of_wrapped (hplaced : PlacedFrom tableEnd entries)
    (hblock : block.size < UInt32.size) (hapart : PayloadsApart entries block tableEnd)
    (hi : i < entries.length) (hwrapped : UInt32.size ≤ tableEnd + sizesBefore entries i) :
    (entries[i].payload block).size = 0 := by
  by_contra hsize
  have hfirst : entries[i].Occupies block entries[i].offset.toNat :=
    ⟨Nat.le_refl _, by omega⟩
  obtain ⟨hle, hlt⟩ := hapart.behindTable _ (List.getElem_mem hi) _ hfirst
  obtain ⟨m, hm, hmi, hearlier⟩ :=
    exists_occupies_of_passed hplaced hblock hi.le hle hlt (by omega)
  have hordered := List.pairwise_iff_getElem.1 hapart.ordered m i hm hi hmi
  exact Nat.lt_irrefl _ (hordered _ _ hearlier hfirst)

/-- A binary table places its entries behind itself. -/
theorem placedFrom_of_run {category : Category} {data : Octets} {pos next : Nat}
    {directory : Directory} (hsize : data.size < UInt32.size)
    (h : (decoder category).run .binary data pos () = ⟨.ok directory, next, ()⟩) :
    PlacedFrom next directory.entries := by
  obtain ⟨base, rows, hread, -, -, hrows, hentries⟩ := exists_rows_of_run h
  have hnext := next_of_binary_rows hrows
  obtain ⟨piece, hcount, -⟩ := Field.isLocal_read .binary .nat32 hread
  have hle := (le_of_rows hcount.le_size hrows).2
  intro i hi
  simp only [hentries]
  rw [offset_layOut, UInt32.toNat_ofNat', Nat.mul_comm rows.length, ← hnext,
    Nat.mod_eq_of_lt (Nat.lt_of_le_of_lt hle hsize)]

end Directory

namespace File

variable {data : Octets} {file : File} {directory : Directory}

/-- Where a reader of the chunk table stops. -/
def tableEnd (file : File) (data : Octets) : Nat :=
  ((Directory.decoder file.header.category).run file.header.storage.encoding
    (file.userDataBlock data) (userDataStart data) ()).next

/-- **When the payloads of a file are apart.**  The payloads of a binary file lie behind the table
and within the block, and each behind all earlier ones, exactly if the payload of every entry whose
offset is wrapped is empty. -/
theorem payloadsApart_iff (h : parse data = .ok file)
    (hbinary : file.header.storage.encoding = .binary)
    (hdirectory : file.directory = .ok directory) :
    Directory.PayloadsApart directory.entries (file.userDataBlock data) (file.tableEnd data) ↔
      ∀ i (hi : i < directory.entries.length),
        UInt32.size ≤ file.tableEnd data + Directory.sizesBefore directory.entries i →
        (directory.entries[i].payload (file.userDataBlock data)).size = 0 := by
  have hblock := size_userDataBlock_lt h hbinary
  have hplaced : Directory.PlacedFrom (file.tableEnd data) directory.entries := by
    rcases run_of_directory h hdirectory with ⟨rfl, -⟩ | ⟨next, hrun, -⟩
    · intro i hi
      exact absurd hi (Nat.not_lt_zero i)
    · rw [tableEnd, hrun]
      rw [hbinary] at hrun
      exact Directory.placedFrom_of_run hblock hrun
  constructor
  · intro hapart i hi hwrapped
    exact Directory.empty_of_wrapped hplaced hblock hapart hi hwrapped
  · exact Directory.payloadsApart_of_unwrapped hplaced

/-- A file with three chunks: two sizes of `2 ^ 31 - 1` and one given by an octet.  The table ends
at 45, the user data at 53, and the third offset is wrapped to 43. -/
def withLargeSizes (size : UInt8) : Octets :=
  #[0x47, 0x42, 0x58, 0x06, 0x00, 0x42, 0x55, 0x55, 0x52, 0x00, 0x30, 0x04, 0x03,
    0x24, 0x00, 0x00, 0x00,
    0x03, 0x00, 0x00, 0x00,
    0x00, 0x00, 0x00, 0x00, 0xFF, 0xFF, 0xFF, 0x7F,
    0x00, 0x00, 0x00, 0x00, 0xFF, 0xFF, 0xFF, 0x7F,
    0x04, 0x30, 0x04, 0x03, size, 0x00, 0x00, 0x00,
    0x01, 0x02, 0x03, 0x04, 0x05, 0x06, 0x07, 0x08,
    0x01, 0x00, 0x00, 0x00, 0x00, 0x00, 0x00, 0x00]

/-- The payloads are apart if the third one is empty. -/
theorem payloadsApart_withLargeSizes_zero :
    ∃ file directory, parse (withLargeSizes 0) = .ok file ∧
      file.header.storage.encoding = .binary ∧ file.directory = .ok directory ∧
      directory.entries.map Entry.offset = [45, 0x8000002C, 43] ∧
      Directory.PayloadsApart directory.entries (file.userDataBlock (withLargeSizes 0))
        (file.tableEnd (withLargeSizes 0)) := by
  have hparse : parse (withLargeSizes 0) = .ok
      { header := ⟨6, ⟨.binary, false, false, some 0x52⟩, 0x03043000, 36, 1, 0⟩
        directory := .ok ⟨[⟨0, 0x7FFFFFFF, 45, none⟩, ⟨0, 0x7FFFFFFF, 0x8000002C, none⟩,
          ⟨0x03043004, 0, 43, some .version⟩]⟩
        chunks := [⟨⟨0x03043004, 0, 43, some .version⟩, ⟨.version, ({} : VersionOnly)⟩,
          some (.read (.truncated 4 0))⟩]
        refTable := .ok .empty
        body := .ok (.uncompressed 0) } := rfl
  refine ⟨_, _, hparse, rfl, rfl, rfl, (payloadsApart_iff hparse rfl rfl).2 ?_⟩
  intro i hi hwrapped
  change UInt32.size ≤ 45 + _ at hwrapped
  match i, hi with
  | 0, _ => exact absurd hwrapped (by decide)
  | 1, _ => exact absurd hwrapped (by decide)
  | 2, _ =>
    rw [Entry.payload, Array.size_extract]
    exact Nat.sub_eq_zero_of_le (Nat.min_le_left _ _)

/-- Otherwise it begins in the table. -/
theorem not_payloadsApart_withLargeSizes :
    ∃ file directory, parse (withLargeSizes 4) = .ok file ∧
      file.header.storage.encoding = .binary ∧ file.directory = .ok directory ∧
      ¬Directory.PayloadsApart directory.entries (file.userDataBlock (withLargeSizes 4))
        (file.tableEnd (withLargeSizes 4)) := by
  have hparse : parse (withLargeSizes 4) = .ok
      { header := ⟨6, ⟨.binary, false, false, some 0x52⟩, 0x03043000, 36, 1, 0⟩
        directory := .ok ⟨[⟨0, 0x7FFFFFFF, 45, none⟩, ⟨0, 0x7FFFFFFF, 0x8000002C, none⟩,
          ⟨0x03043004, 4, 43, some .version⟩]⟩
        chunks := [⟨⟨0x03043004, 4, 43, some .version⟩,
          ⟨.version, ({ version := some 0x02010000 } : VersionOnly)⟩, none⟩]
        refTable := .ok .empty
        body := .ok (.uncompressed 0) } := rfl
  refine ⟨_, _, hparse, rfl, rfl, fun hapart => ?_⟩
  have hbehind := hapart.behindTable ⟨0x03043004, 4, 43, some .version⟩ (by simp) 43
    ⟨by decide, by decide⟩
  exact absurd hbehind.1 (by decide)

end File
end GameBox
