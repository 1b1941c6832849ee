import GameBox.Directory
import GameBox.Proofs.Reading.Decoder
import Mathlib.Data.List.Chain
import Mathlib.Data.Nat.Bitwise

/-!
# The table of chunks and where payloads are placed

The offsets of payloads are not stored.  They are computed from the sizes, before the table is
read, and nothing compares them with the octets that are read after that.  This module says what
they are.

## Offsets are sums

`offset_layOut` is the closed form: an offset counts the sizes of all earlier entries, modulo
`2 ^ 32`.  The sum itself is `sizesBefore`, a natural number.  It grows from place to place and
never wraps, so that later arguments about neighbours are about this sum and not about the offsets.

## Where the first payload is placed

The first payload is placed eight octets for each entry behind the count.  The rows themselves are
read in the encoding of the file.  `next_of_binary_rows` counts the octets that binary rows take,
and finds the same number.  The rows of a text file are lines of any length, and
`payloads_follow_table_iff` says exactly when they end at the first payload;
`payloads_miss_short_lines` is a table where they do not.
-/

namespace GameBox
namespace Directory

variable {category : Category} {encoding : Encoding} {data : Octets} {pos next : Nat}
variable {directory : Directory}

/-! ## Sizes before a place -/

/-- The sizes of all entries before a place in the table. -/
def sizesBefore (entries : List Entry) (place : Nat) : Nat :=
  ((entries.take place).map fun entry => entry.size.toNat).sum

@[simp] theorem sizesBefore_zero (entries : List Entry) : sizesBefore entries 0 = 0 := rfl

@[simp] theorem sizesBefore_cons_succ (entry : Entry) (entries : List Entry) (place : Nat) :
    sizesBefore (entry :: entries) (place + 1) = entry.size.toNat + sizesBefore entries place := by
  simp [sizesBefore]

theorem sizesBefore_succ {entries : List Entry} {place : Nat} (h : place < entries.length) :
    sizesBefore entries (place + 1) = sizesBefore entries place + entries[place].size.toNat := by
  rw [sizesBefore, List.take_succ_eq_append_getElem h, List.map_append, List.sum_append]
  simp [sizesBefore]

theorem sizesBefore_mono (entries : List Entry) : Monotone (sizesBefore entries) := by
  refine monotone_nat_of_le_succ fun place => ?_
  by_cases h : place < entries.length
  · rw [sizesBefore_succ h]
    exact Nat.le_add_right _ _
  · rw [sizesBefore, sizesBefore, List.take_of_length_le (by omega),
      List.take_of_length_le (by omega)]

/-- The flag of a stored size is left out. -/
theorem toNat_and_sizeMask (word : UInt32) : (word &&& sizeMask).toNat = word.toNat % 2 ^ 31 := by
  have hmask : sizeMask.toNat = 2 ^ 31 - 1 := rfl
  rw [UInt32.toNat_and, hmask, Nat.and_two_pow_sub_one_eq_mod]

/-! ## Payloads back to back -/

/-- The offset of an entry counts the sizes of those before it, modulo `2 ^ 32`. -/
theorem offset_layOut (category : Category) (offset : UInt32) (rows : List (UInt32 × UInt32))
    {place : Nat} (h : place < (layOut category offset rows).length) :
    (layOut category offset rows)[place].offset.toNat =
      (offset.toNat + sizesBefore (layOut category offset rows) place) % UInt32.size := by
  induction rows generalizing offset place with
  | nil => simp [layOut] at h
  | cons row rest ih =>
    cases place with
    | zero => simp [layOut, Nat.mod_eq_of_lt offset.toNat_lt]
    | succ place =>
      simp only [layOut, List.getElem_cons_succ, sizesBefore_cons_succ]
      rw [ih, UInt32.toNat_add, ← Nat.add_assoc]
      exact Nat.mod_add_mod _ _ _

/-- Every payload begins where the one before it ends, modulo `2 ^ 32`. -/
theorem isChain_layOut (category : Category) (offset : UInt32)
    (rows : List (UInt32 × UInt32)) :
    (layOut category offset rows).IsChain fun entry after =>
      after.offset = entry.offset + entry.size := by
  induction rows generalizing offset with
  | nil => exact List.IsChain.nil
  | cons row rest ih =>
    cases rest with
    | nil => exact List.isChain_singleton _
    | cons row' rest => exact List.isChain_cons_cons.mpr ⟨rfl, ih (offset + row.2)⟩

/-- The kind of an entry is the one that its id has in the category. -/
theorem kind_of_mem_layOut {offset : UInt32} {rows : List (UInt32 × UInt32)} {entry : Entry}
    (h : entry ∈ layOut category offset rows) : entry.kind = category.chunkKind? entry.id := by
  induction rows generalizing offset with
  | nil => simp [layOut] at h
  | cons row rest ih =>
    rw [layOut, List.mem_cons] at h
    rcases h with rfl | h
    · rfl
    · exact ih h

/-! ## Reading the table -/

/-- The two words of an entry are read one after the other. -/
theorem isLocal_entryDecoder : entryDecoder.IsLocal :=
  (Decoder.isLocal_read _).bind fun _ => (Decoder.isLocal_read _).bind fun _ => .done _

theorem count_of_run {count : UInt32} {s : Unit}
    (h : countDecoder.run encoding data pos () = ⟨.ok count, next, s⟩) :
    Field.nat32.read encoding data pos = ⟨.ok count, next⟩ ∧ 0 < count.toNat ∧
      count.toNat ≤ maxChunks.toNat := by
  obtain ⟨count', middle, s', hread, hcheck⟩ := Decoder.exists_run_of_bind h
  obtain ⟨hfield, -⟩ := Decoder.read_of_run hread
  obtain ⟨hzero, hbound⟩ := Decoder.run_of_unless_fail hcheck
  obtain ⟨hmax, hdone⟩ := Decoder.run_of_unless_fail hbound
  obtain ⟨rfl, rfl, -⟩ := Decoder.pure_of_run hdone
  refine ⟨hfield, ?_, UInt32.le_iff_toNat_le.mp (UInt32.not_lt.mp hmax)⟩
  exact Nat.pos_of_ne_zero fun h0 => hzero (UInt32.toNat_inj.mp h0)

/-- A table that is read has a count and as many rows behind it. -/
theorem exists_rows_of_run
    (h : (decoder category).run encoding data pos () = ⟨.ok directory, next, ()⟩) :
    ∃ (base : Nat) (rows : List (UInt32 × UInt32)),
      Field.nat32.read encoding data pos = ⟨.ok (UInt32.ofNat rows.length), base⟩ ∧
      0 < rows.length ∧ rows.length ≤ maxChunks.toNat ∧
      (entryDecoder.times rows.length).run encoding data base () = ⟨.ok rows, next, ()⟩ ∧
      directory.entries =
        layOut category (UInt32.ofNat (base + rows.length * entrySize)) rows := by
  obtain ⟨count, base, s, hcount, hrest⟩ := Decoder.exists_run_of_bind h
  obtain ⟨hread, hpos, hmax⟩ := count_of_run hcount
  obtain ⟨base', middle, s', hbase, hrest'⟩ := Decoder.exists_run_of_bind hrest
  change Decoder.run encoding data (pure base) base s = _ at hbase
  obtain ⟨rfl, rfl, -⟩ := Decoder.pure_of_run hbase
  obtain ⟨rows, middle', s'', hrows, hdone⟩ := Decoder.exists_run_of_bind hrest'
  obtain ⟨rfl, rfl, -⟩ := Decoder.pure_of_run hdone
  have hlength : rows.length = count.toNat :=
    (Decoder.times_invariant (fun _ _ _ => True) (fun _ _ _ _ _ _ _ _ => trivial) trivial
      hrows).1
  refine ⟨base, rows, ?_, ?_, ?_, ?_, ?_⟩
  all_goals rw [hlength]
  · rw [UInt32.ofNat_toNat]
    exact hread
  · exact hpos
  · exact hmax
  · exact hrows

/-- Rows follow each other in the buffer. -/
theorem le_of_rows {count base : Nat} {rows : List (UInt32 × UInt32)} (hbase : base ≤ data.size)
    (h : (entryDecoder.times count).run encoding data base () = ⟨.ok rows, next, ()⟩) :
    base ≤ next ∧ next ≤ data.size := by
  obtain ⟨piece, hspans, -⟩ := (isLocal_entryDecoder.times count).reads_of_run hbase h
  exact ⟨hspans.le, hspans.le_size⟩

/-- In a binary table every row takes eight octets. -/
theorem next_of_binary_rows {count base : Nat} {rows : List (UInt32 × UInt32)}
    (h : (entryDecoder.times count).run .binary data base () = ⟨.ok rows, next, ()⟩) :
    next = base + entrySize * count := by
  have hround := Decoder.times_invariant
    (fun values pos (_ : Unit) => pos = base + entrySize * values.length)
    (fun values pos _ value next _ hpos hrun => by
      obtain ⟨id, middle, s, hid, hrest⟩ := Decoder.exists_run_of_bind hrun
      obtain ⟨size, middle', s', hsize, hdone⟩ := Decoder.exists_run_of_bind hrest
      have hmiddle := Field.next_of_read_nat32 (Decoder.read_of_run hid).1
      have hmiddle' := Field.next_of_read_nat32 (Decoder.read_of_run hsize).1
      rw [← (Decoder.pure_of_run hdone).2.1, List.length_append, List.length_singleton, hmiddle',
        hmiddle, hpos]
      simp only [entrySize]
      omega)
    (by simp) h
  rw [hround.2, hround.1]

/-- **Where the first payload is placed.**  Payloads are placed back to back, modulo `2 ^ 32`, and
the first one as far behind the count as a binary table is long.  So it is placed where the table
ends exactly if the rows take eight octets each, all in all: always in a binary file, and in a text
file if the lines happen to be that long. -/
theorem payloads_follow_table_iff (hsize : data.size < UInt32.size)
    (h : (decoder category).run encoding data pos () = ⟨.ok directory, next, ()⟩) :
    (directory.entries.IsChain fun entry after => after.offset = entry.offset + entry.size) ∧
      ∃ first, directory.entries.head? = some first ∧
        (first.offset.toNat = next ↔
          next = (Field.nat32.read encoding data pos).next +
            entrySize * directory.entries.length) ∧
        (encoding = .binary → first.offset.toNat = next) := by
  obtain ⟨base, rows, hread, hpos, hmax, hrows, hentries⟩ := exists_rows_of_run h
  obtain ⟨piece, hcount, -⟩ := Field.isLocal_read encoding .nat32 hread
  obtain ⟨hle, hnext⟩ := le_of_rows hcount.le_size hrows
  obtain ⟨row, rest, rfl⟩ := List.exists_cons_of_length_pos hpos
  have hlength : directory.entries.length = (row :: rest).length := by
    rw [hentries, length_layOut]
  -- At most 255 rows are too few to reach the table again from behind `2 ^ 32`.
  have hfirst : (UInt32.ofNat (base + (row :: rest).length * entrySize)).toNat = next ↔
      next = base + entrySize * (row :: rest).length := by
    have hbound : (row :: rest).length ≤ 255 := hmax
    have hword : UInt32.size = 4294967296 := rfl
    rw [UInt32.toNat_ofNat', Nat.mul_comm entrySize]
    simp only [entrySize]
    omega
  refine ⟨hentries ▸ isChain_layOut _ _ _, _, by rw [hentries]; rfl, ?_, ?_⟩
  · rw [hread, hlength]
    exact hfirst
  · rintro rfl
    exact hfirst.2 (next_of_binary_rows hrows)

/-- The lines of a text table may be long enough for the first payload to be found. -/
theorem payloads_follow_long_lines :
    ∃ directory first, (Utf8.encode "1\r\n50\r\n03\r\nabc").toArray.size < UInt32.size ∧
      (decoder .challenge).run .text (Utf8.encode "1\r\n50\r\n03\r\nabc").toArray 0 () =
        ⟨.ok directory, 11, ()⟩ ∧
      directory.entries.head? = some first ∧ first.offset.toNat = 11 := by
  have hrun : (decoder .challenge).run .text (Utf8.encode "1\r\n50\r\n03\r\nabc").toArray 0 () =
      ⟨.ok ⟨[⟨50, 3, 11, none⟩]⟩, 11, ()⟩ := rfl
  have hsize : (Utf8.encode "1\r\n50\r\n03\r\nabc").toArray.size < UInt32.size := by decide
  obtain ⟨-, first, hfirst, hiff, -⟩ := payloads_follow_table_iff hsize hrun
  exact ⟨_, first, hsize, hrun, hfirst, hiff.2 rfl⟩

/-- Shorter lines end before the place where the first payload is expected. -/
theorem payloads_miss_short_lines :
    ∃ directory first, (Utf8.encode "1\r\n5\r\n3\r\nabc").toArray.size < UInt32.size ∧
      (decoder .challenge).run .text (Utf8.encode "1\r\n5\r\n3\r\nabc").toArray 0 () =
        ⟨.ok directory, 9, ()⟩ ∧
      directory.entries.head? = some first ∧ first.offset.toNat = 11 :=
  ⟨_, _, by decide, rfl, rfl, rfl⟩

end Directory
end GameBox
