import GameBox.Proofs.Directory.Table

/-!
# What a binary table says

A binary table is a count and two words for each chunk.  Whether it is read, why it is refused and
what its entries are depends on these words only, and this module says how.

## Words

`Octets.word32?` is the word at a position as a sum over its four octets, or nothing if one of them
is missing.  Everything else is stated about such words; `Octets.word32?_of_le` connects them with
what a field is read from.

## Rows

The rows are read in a loop, but the place of each one is known beforehand: eight octets behind the
one before it.  So the loop is run from the places (`run_rows`).  If the buffer ends too early, the
first row that is not whole is the one at which the loop fails (`run_rows_of_short`).

## Tables

`IsStored` is what a table means: its entries have the ids and the sizes that are stored, without
the flag beside the size, they are placed back to back behind the table, modulo `2 ^ 32`, and their
kinds depend on their ids alone.  `table_read_exactly` says which tables are read, and that the ones
that are not read are refused for the first reason there is.
-/

namespace GameBox

/-! ## Words -/

namespace Octets

variable {data : Octets} {pos n : Nat}

/-- The number in the four octets from a position, the least significant one first. -/
def word32? (data : Octets) (pos : Nat) : Option Nat := do
  let first ← data[pos]?
  let second ← data[pos + 1]?
  let third ← data[pos + 2]?
  let fourth ← data[pos + 3]?
  some (first.toNat + 2 ^ 8 * second.toNat + 2 ^ 16 * third.toNat + 2 ^ 24 * fourth.toNat)

theorem word32?_of_lt (h : data.size < pos + 4) : data.word32? pos = none := by
  rw [word32?, Array.getElem?_eq_none (Nat.le_of_lt_succ h)]
  simp

/-- The word at a position is the number that its four octets denote. -/
theorem word32?_of_le (h : pos + 4 ≤ data.size) :
    data.word32? pos = some (littleEndian ((data.toList.drop pos).take 4)) := by
  generalize hpiece : (data.toList.drop pos).take 4 = piece
  have hget (i : Nat) (hi : i < 4) : data[pos + i]? = piece[i]? := by
    rw [← hpiece, List.getElem?_take_of_lt hi, List.getElem?_drop, Array.getElem?_toList]
  have hlength : piece.length = 4 := by
    rw [← hpiece, List.length_take, List.length_drop, Array.length_toList]
    omega
  obtain ⟨first, piece, rfl⟩ := List.exists_cons_of_length_eq_add_one hlength
  obtain ⟨second, piece, rfl⟩ := List.exists_cons_of_length_eq_add_one (Nat.succ.inj hlength)
  obtain ⟨third, piece, rfl⟩ :=
    List.exists_cons_of_length_eq_add_one (Nat.succ.inj (Nat.succ.inj hlength))
  obtain ⟨fourth, rfl⟩ :=
    List.length_eq_one_iff.1 (Nat.succ.inj (Nat.succ.inj (Nat.succ.inj hlength)))
  rw [word32?, ← Nat.add_zero pos, hget 0 (by decide), hget 1 (by decide), hget 2 (by decide),
    hget 3 (by decide)]
  simp only [List.getElem?_cons_zero, List.getElem?_cons_succ, Option.bind_eq_bind,
    Option.bind_some, littleEndian_cons, littleEndian_nil, Option.some.injEq]
  omega

theorem word32?_eq_none_iff : data.word32? pos = none ↔ data.size < pos + 4 := by
  refine ⟨fun h => Nat.not_le.1 fun hle => ?_, word32?_of_lt⟩
  rw [word32?_of_le hle] at h
  cases h

theorem le_size_of_word32? (h : data.word32? pos = some n) : pos + 4 ≤ data.size := by
  by_contra hshort
  rw [word32?_of_lt (Nat.not_le.1 hshort)] at h
  cases h

theorem exists_word32? (h : pos + 4 ≤ data.size) : ∃ n, data.word32? pos = some n :=
  ⟨_, word32?_of_le h⟩

theorem toNat_ofNat_word32? (h : data.word32? pos = some n) : (UInt32.ofNat n).toNat = n := by
  rw [word32?_of_le (le_size_of_word32? h), Option.some_inj] at h
  rw [← h]
  exact Field.toNat_ofNat_littleEndian (List.length_take_le _ _)

end Octets

namespace Field

variable {data : Octets} {pos n : Nat}

theorem read_nat32_of_word (h : data.word32? pos = some n) :
    nat32.read .binary data pos = ⟨.ok (UInt32.ofNat n), pos + 4⟩ := by
  have hle := Octets.le_size_of_word32? h
  rw [Octets.word32?_of_le hle, Option.some_inj] at h
  rw [read_nat32_of_le hle, h]

end Field

namespace Directory

variable {category : Category} {data : Octets} {start count pos : Nat} {directory : Directory}

/-! ## Rows -/

theorem run_entryDecoder {id word : Nat} (hid : data.word32? pos = some id)
    (hword : data.word32? (pos + 4) = some word) :
    entryDecoder.run .binary data pos () =
      ⟨.ok (UInt32.ofNat id, UInt32.ofNat word &&& sizeMask), pos + 8, ()⟩ := by
  show (Decoder.field .nat32 _).run .binary data pos () = _
  rw [Decoder.run_field_of_read (Field.read_nat32_of_word hid)]
  show (Decoder.field .nat32 _).run .binary data (pos + 4) () = _
  rw [Decoder.run_field_of_read (Field.read_nat32_of_word hword)]
  rfl

theorem run_entryDecoder_of_short (h : data.size < pos + 8) :
    ∃ needed available next, entryDecoder.run .binary data pos () =
      ⟨.error (.read (.truncated needed available)), next, ()⟩ := by
  by_cases hid : data.size < pos + 4
  · exact ⟨_, _, _, Decoder.run_field_of_error (Field.read_nat32_of_lt hid)⟩
  · obtain ⟨id, hid⟩ := Octets.exists_word32? (Nat.le_of_not_lt hid)
    have hsize : data.size < pos + 4 + 4 := by omega
    have hrest : (Decoder.read .nat32 >>= fun size =>
        pure (UInt32.ofNat id, size &&& sizeMask) : Decoder Unit _).run .binary data (pos + 4) () =
          ⟨.error (.read (.truncated 4 (data.left (pos + 4)))), pos + 4, ()⟩ :=
      Decoder.run_field_of_error (Field.read_nat32_of_lt hsize)
    exact ⟨_, _, _, (Decoder.run_field_of_read (Field.read_nat32_of_word hid)).trans hrest⟩

/-- The row of a binary table at a place. -/
def storedRow (data : Octets) (base place : Nat) : UInt32 × UInt32 :=
  (UInt32.ofNat ((data.word32? (base + 8 * place)).getD 0),
    UInt32.ofNat ((data.word32? (base + 8 * place + 4)).getD 0) &&& sizeMask)

theorem run_row {base place : Nat} (h : base + 8 * (place + 1) ≤ data.size) :
    entryDecoder.run .binary data (base + 8 * place) () =
      ⟨.ok (storedRow data base place), base + 8 * (place + 1), ()⟩ := by
  have hfirst : base + 8 * place + 4 ≤ data.size := by omega
  have hsecond : base + 8 * place + 4 + 4 ≤ data.size := by omega
  obtain ⟨id, hid⟩ := Octets.exists_word32? hfirst
  obtain ⟨word, hword⟩ := Octets.exists_word32? hsecond
  rw [run_entryDecoder hid hword, storedRow, hid, hword]
  rfl

theorem run_rows {base : Nat} (h : base + 8 * count ≤ data.size) :
    (entryDecoder.times count).run .binary data base () =
      ⟨.ok ((List.range count).map (storedRow data base)), base + 8 * count, ()⟩ :=
  Decoder.run_times_of_rounds (fun place => base + 8 * place) _
    fun place hplace => run_row (by omega)

theorem run_rows_of_short {base : Nat} (hbase : base ≤ data.size)
    (h : data.size < base + 8 * count) :
    ∃ needed available next, (entryDecoder.times count).run .binary data base () =
      ⟨.error (.read (.truncated needed available)), next, ()⟩ := by
  -- The first row that is not whole.
  have hshort : data.size < base + 8 * ((data.size - base) / 8) + 8 := by omega
  obtain ⟨needed, available, next, hrun⟩ := run_entryDecoder_of_short hshort
  refine ⟨needed, available, next, ?_⟩
  have hround : (data.size - base) / 8 < count := by omega
  exact Decoder.run_times_of_error (fun place => base + 8 * place) (storedRow data base) hround
    (fun place hplace => run_row (by omega)) hrun

/-! ## The table -/

theorem run_countDecoder (h : data.word32? start = some count) :
    countDecoder.run .binary data start () =
      if count = 0 then ⟨.error .noChunks, start + 4, ()⟩
      else if 255 < count then
        ⟨.error (.read (.limitExceeded .headerChunkCount count 256)), start + 4, ()⟩
      else ⟨.ok (UInt32.ofNat count), start + 4, ()⟩ := by
  have hnat := Octets.toNat_ofNat_word32? h
  have hzero : UInt32.ofNat count = 0 ↔ count = 0 := by
    rw [← UInt32.toNat_inj, hnat]
    rfl
  have hmax : maxChunks < UInt32.ofNat count ↔ 255 < count := by
    rw [UInt32.lt_iff_toNat_lt, hnat]
    rfl
  refine (Decoder.run_field_of_read (Field.read_nat32_of_word h)).trans ?_
  show Decoder.run .binary data (if UInt32.ofNat count = 0 then .fail .noChunks
    else if maxChunks < UInt32.ofNat count then
      Decoder.exceeded .headerChunkCount (UInt32.ofNat count).toNat (maxChunks.toNat + 1)
    else pure (UInt32.ofNat count)) (start + 4) () = _
  simp only [hzero, hmax, hnat]
  split
  · rfl
  · split <;> rfl

theorem rows_layOut (category : Category) (offset : UInt32) (rows : List (UInt32 × UInt32)) :
    (layOut category offset rows).map (fun entry => (entry.id, entry.size)) = rows := by
  induction rows generalizing offset with
  | nil => rfl
  | cons row rest ih => rw [layOut, List.map_cons, ih]

/-- An entry has the id and the size of its row. -/
theorem getElem?_of_layOut {offset : UInt32} {rows : List (UInt32 × UInt32)} {place : Nat}
    (h : place < (layOut category offset rows).length) :
    rows[place]? = some ((layOut category offset rows)[place].id,
      (layOut category offset rows)[place].size) := by
  conv_lhs => rw [← rows_layOut category offset rows]
  rw [List.getElem?_map, List.getElem?_eq_getElem h, Option.map_some]

/-- The entries of a binary table with a count, as the octets behind the count give them. -/
structure IsStored (category : Category) (data : Octets) (start count : Nat)
    (directory : Directory) : Prop where
  length : directory.entries.length = count
  id : ∀ place (h : place < directory.entries.length),
    data.word32? (start + 4 + 8 * place) = some directory.entries[place].id.toNat
  /-- The top bit of a stored size is a flag. -/
  size : ∀ place (h : place < directory.entries.length), ∃ word,
    data.word32? (start + 4 + 8 * place + 4) = some word ∧
      directory.entries[place].size.toNat = word % 2 ^ 31
  offset : ∀ place (h : place < directory.entries.length),
    directory.entries[place].offset.toNat =
      (start + 4 + 8 * count + sizesBefore directory.entries place) % 2 ^ 32
  kind : ∀ entry ∈ directory.entries, entry.kind = category.chunkKind? entry.id

theorem isStored_layOut (category : Category) (h : start + 4 + 8 * count ≤ data.size) :
    IsStored category data start count ⟨layOut category (UInt32.ofNat (start + 4 + 8 * count))
      ((List.range count).map (storedRow data (start + 4)))⟩ := by
  generalize hrows : (List.range count).map (storedRow data (start + 4)) = rows
  have hlength : (layOut category (UInt32.ofNat (start + 4 + 8 * count)) rows).length = count := by
    rw [length_layOut, ← hrows, List.length_map, List.length_range]
  have hrow (place : Nat) (hplace : place < count) :
      rows[place]? = some (storedRow data (start + 4) place) := by
    rw [← hrows, List.getElem?_map, List.getElem?_range hplace, Option.map_some]
  refine ⟨hlength, fun place hplace => ?_, fun place hplace => ?_, fun place hplace => ?_,
    fun entry hentry => kind_of_mem_layOut hentry⟩
  · have hplace' : place < count := hlength ▸ hplace
    obtain ⟨id, hid⟩ := Octets.exists_word32? (by omega : start + 4 + 8 * place + 4 ≤ data.size)
    have hget := (getElem?_of_layOut hplace).symm.trans (hrow place hplace')
    rw [storedRow, hid, Option.some_inj, Prod.mk.injEq] at hget
    rw [hid, hget.1, Option.getD_some, Octets.toNat_ofNat_word32? hid]
  · have hplace' : place < count := hlength ▸ hplace
    obtain ⟨word, hword⟩ :=
      Octets.exists_word32? (by omega : start + 4 + 8 * place + 4 + 4 ≤ data.size)
    have hget := (getElem?_of_layOut hplace).symm.trans (hrow place hplace')
    rw [storedRow, hword, Option.some_inj, Prod.mk.injEq] at hget
    refine ⟨word, hword, ?_⟩
    rw [hget.2, Option.getD_some, toNat_and_sizeMask, Octets.toNat_ofNat_word32? hword]
  · rw [offset_layOut category _ rows hplace, UInt32.toNat_ofNat']
    exact Nat.mod_add_mod _ _ _

theorem run_decoder_of_no_count (category : Category) (h : data.word32? start = none) :
    ∃ needed available next, (decoder category).run .binary data start () =
      ⟨.error (.read (.truncated needed available)), next, ()⟩ := by
  refine ⟨_, _, _, Decoder.run_field_of_error (Field.read_nat32_of_lt ?_)⟩
  rwa [← Octets.word32?_eq_none_iff]

theorem run_decoder_of_count_error {error : DecodeError}
    (h : countDecoder.run .binary data start () = ⟨.error error, pos, ()⟩) :
    (decoder category).run .binary data start () = ⟨.error error, pos, ()⟩ := by
  show Decoder.run .binary data (countDecoder.bind _) start () = _
  rw [Decoder.run_bind, h]

/-- Behind the count the rows are read; in between the position is asked for. -/
theorem run_decoder_of_count {number : UInt32}
    (h : countDecoder.run .binary data start () = ⟨.ok number, pos, ()⟩) :
    (decoder category).run .binary data start () =
      (Decoder.bind (entryDecoder.times number.toNat) fun rows => .done
        ⟨layOut category (UInt32.ofNat (pos + number.toNat * entrySize)) rows⟩).run
          .binary data pos () := by
  show Decoder.run .binary data (countDecoder.bind _) start () = _
  rw [Decoder.run_bind_of_run h]
  rfl

/-- The five things that can become of a binary table. -/
theorem run_decoder (category : Category) (data : Octets) (start : Nat) :
    match data.word32? start with
    | none => ∃ needed available next, (decoder category).run .binary data start () =
      ⟨.error (.read (.truncated needed available)), next, ()⟩
    | some count =>
      if count = 0 then
        (decoder category).run .binary data start () = ⟨.error .noChunks, start + 4, ()⟩
      else if 255 < count then
        (decoder category).run .binary data start () =
          ⟨.error (.read (.limitExceeded .headerChunkCount count 256)), start + 4, ()⟩
      else if data.size < start + 4 + 8 * count then
        ∃ needed available next, (decoder category).run .binary data start () =
          ⟨.error (.read (.truncated needed available)), next, ()⟩
      else ∃ directory, IsStored category data start count directory ∧
        (decoder category).run .binary data start () =
          ⟨.ok directory, start + 4 + 8 * count, ()⟩ := by
  split
  · rename_i hnone
    exact run_decoder_of_no_count category hnone
  · rename_i count hcount
    have hrun := run_countDecoder hcount
    have hbase := Octets.le_size_of_word32? hcount
    split_ifs at hrun ⊢ with hzero hmany hshort
    · exact run_decoder_of_count_error hrun
    · exact run_decoder_of_count_error hrun
    · obtain ⟨needed, available, next, hrows⟩ := run_rows_of_short hbase hshort
      refine ⟨needed, available, next, ?_⟩
      rw [run_decoder_of_count hrun, Octets.toNat_ofNat_word32? hcount, Decoder.run_bind, hrows]
    · refine ⟨_, isStored_layOut category (Nat.le_of_not_lt hshort), ?_⟩
      rw [run_decoder_of_count hrun, Octets.toNat_ofNat_word32? hcount,
        Decoder.run_bind_of_run (run_rows (Nat.le_of_not_lt hshort)), Decoder.run_done]
      simp only [entrySize, Nat.mul_comm count]

/-- **A binary table is read exactly.**  It is refused for having no chunks exactly if its count is
there and zero, for having too many exactly if the count is greater than 255, and for being cut off
exactly if the count or, for any other count, one of the rows is not there.  Otherwise it is read to
its end, and the entries are the ones that it says. -/
theorem table_read_exactly (category : Category) (data : Octets) (start : Nat) :
    (((decoder category).run .binary data start ()).result = .error .noChunks ↔
      data.word32? start = some 0) ∧
    ((∃ what value limit, ((decoder category).run .binary data start ()).result =
        .error (.read (.limitExceeded what value limit))) ↔
      ∃ count, data.word32? start = some count ∧ 255 < count) ∧
    ((∃ needed available, ((decoder category).run .binary data start ()).result =
        .error (.read (.truncated needed available))) ↔
      data.word32? start = none ∨ ∃ count, data.word32? start = some count ∧
        1 ≤ count ∧ count ≤ 255 ∧ data.size < start + 4 + 8 * count) ∧
    ∀ count, (data.word32? start = some count ∧ 1 ≤ count ∧ count ≤ 255 ∧
        start + 4 + 8 * count ≤ data.size) ↔
      ∃ directory, IsStored category data start count directory ∧
        (decoder category).run .binary data start () =
          ⟨.ok directory, start + 4 + 8 * count, ()⟩ := by
  have hrun := run_decoder category data start
  cases hword : data.word32? start with
  | none =>
    rw [hword] at hrun
    obtain ⟨needed, available, next, hrun⟩ := hrun
    rw [hrun]
    simp
  | some count =>
    rw [hword] at hrun
    dsimp only at hrun
    split_ifs at hrun with hzero hmany hshort
    · rw [hrun]
      simp [hzero]
    · rw [hrun]
      simp [hzero, hmany]
    · obtain ⟨needed, available, next, hrun⟩ := hrun
      have hcount : 1 ≤ count ∧ count ≤ 255 := by omega
      rw [hrun]
      simp [hzero, hshort, hcount]
    · obtain ⟨directory, hstored, hrun⟩ := hrun
      have hcount : 1 ≤ count ∧ count ≤ 255 := by omega
      rw [hrun]
      refine ⟨by simp [hzero], by simp [hcount], by simp [Nat.not_lt.1 hshort], fun n => ⟨?_, ?_⟩⟩
      · rintro ⟨hn, -⟩
        obtain rfl := Option.some.inj hn
        exact ⟨directory, hstored, rfl⟩
      · rintro ⟨_, -, heq⟩
        obtain rfl : count = n := by
          have hnext := congrArg Outcome.next heq
          dsimp only at hnext
          omega
        exact ⟨rfl, hcount.1, hcount.2, Nat.le_of_not_lt hshort⟩

end Directory
end GameBox
