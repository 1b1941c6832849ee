import GameBox.Header.Write
import GameBox.Proofs.Directory.Table

/-!
# Tables of chunks that were written

The user data of a binary file is written as the table and the payloads back to back.  The table
does not say where the payloads are, so reading it back is only half of what has to be shown: the
offsets that a reader computes must find the payloads again.

* `FramedChunk.row`: what a table says about a chunk; the flag beside the size is lost.
* `Directory.run_writeTable`: a table that was written is read back.
* `Directory.forall₂_frames_layOut`: the entries of the table cut out the payloads.
-/

namespace GameBox

/-- What a reader of the table learns about a chunk. -/
def FramedChunk.row (chunk : FramedChunk) : UInt32 × UInt32 :=
  (chunk.id, UInt32.ofNat chunk.payload.length)

/-- The flag is no part of the size. -/
theorem FramedChunk.sizeWord_and_sizeMask {chunk : FramedChunk}
    (h : chunk.payload.length < 2 ^ 31) :
    UInt32.ofNat chunk.sizeWord &&& Directory.sizeMask = UInt32.ofNat chunk.payload.length := by
  apply UInt32.toNat_inj.1
  rw [Directory.toNat_and_sizeMask, UInt32.toNat_ofNat', UInt32.toNat_ofNat', sizeWord]
  split <;> omega

namespace Directory

variable {category : Category} {chunks : List FramedChunk}

/-! ## Reading the table back -/

theorem reads_entryDecoder {chunk : FramedChunk} (h : chunk.payload.length < 2 ^ 31) :
    Decoder.Reads .binary entryDecoder () (writeEntry chunk) chunk.row () := by
  have hword : chunk.sizeWord < 2 ^ 32 := by
    rw [FramedChunk.sizeWord]
    split <;> omega
  have hsize := Field.reads_nat32 (UInt32.ofNat chunk.sizeWord)
  rw [UInt32.toNat_ofNat', Nat.mod_eq_of_lt hword] at hsize
  refine (Decoder.Reads.read (Field.reads_nat32 chunk.id) ()).bind ?_
  refine (Decoder.Reads.read hsize ()).finish ?_
  rw [FramedChunk.sizeWord_and_sizeMask h]
  exact .done _ _

theorem reads_countDecoder {count : Nat} (hpos : 0 < count) (hmax : count ≤ maxChunks.toNat) :
    Decoder.Reads .binary countDecoder () (octets 4 count) (UInt32.ofNat count) () := by
  have hbound : maxChunks.toNat = 255 := rfl
  have hcount : (UInt32.ofNat count).toNat = count := by
    rw [UInt32.toNat_ofNat', Nat.mod_eq_of_lt (by omega)]
  have hread := Field.reads_nat32 (UInt32.ofNat count)
  rw [hcount] at hread
  refine (Decoder.Reads.read hread ()).finish ?_
  rw [if_neg, if_neg]
  · exact .done _ _
  · rw [UInt32.not_lt, UInt32.le_iff_toNat_le, hcount]
    exact hmax
  · rw [← UInt32.toNat_inj, hcount]
    exact hpos.ne'

theorem length_writeEntry (chunk : FramedChunk) : (writeEntry chunk).length = entrySize := by
  rw [writeEntry, List.length_append, length_octets, length_octets]
  rfl

theorem length_writeTable (chunks : List FramedChunk) :
    (writeTable chunks).length = 4 + chunks.length * entrySize := by
  rw [writeTable, List.length_append, length_octets, List.length_flatMap]
  simp only [length_writeEntry, List.map_const', List.sum_replicate_nat]

/-- A table that was written is read back, and the first payload is placed at its end. -/
theorem run_writeTable (category : Category) (hpos : 0 < chunks.length)
    (hmax : chunks.length ≤ maxChunks.toNat)
    (hsmall : ∀ chunk ∈ chunks, chunk.payload.length < 2 ^ 31) (front back : List UInt8) :
    (decoder category).run .binary (front ++ writeTable chunks ++ back).toArray front.length () =
      ⟨.ok ⟨layOut category (UInt32.ofNat (front ++ writeTable chunks).length)
        (chunks.map FramedChunk.row)⟩, (front ++ writeTable chunks).length, ()⟩ := by
  have hcount := reads_countDecoder hpos hmax front (chunks.flatMap writeEntry ++ back)
  have hrows := Decoder.Reads.times writeEntry FramedChunk.row chunks
    (fun chunk hchunk => reads_entryDecoder (hsmall chunk hchunk))
    (front ++ octets 4 chunks.length) back
  have hdata : front ++ writeTable chunks ++ back =
      front ++ octets 4 chunks.length ++ (chunks.flatMap writeEntry ++ back) := by
    simp only [writeTable, List.append_assoc]
  rw [← hdata] at hcount
  rw [List.append_assoc (front ++ _), ← hdata, List.length_append, length_octets] at hrows
  have hlength : (UInt32.ofNat chunks.length).toNat = chunks.length := by
    have hbound : maxChunks.toNat = 255 := rfl
    rw [UInt32.toNat_ofNat', Nat.mod_eq_of_lt (by omega)]
  have hend : front.length + 4 + chunks.length * entrySize =
      (front ++ writeTable chunks).length := by
    rw [List.length_append, length_writeTable, Nat.add_assoc]
  have hnext : front.length + 4 + (chunks.flatMap writeEntry).length =
      (front ++ writeTable chunks).length := by
    simp only [writeTable, List.length_append, length_octets, Nat.add_assoc]
  -- Between the count and the rows the position is asked for, and nothing is read.
  show Decoder.run .binary _ (countDecoder.bind _) _ () = _
  rw [Decoder.run_bind_of_run hcount, length_octets]
  show Decoder.run .binary _ ((entryDecoder.times _).bind _) _ () = _
  rw [hlength, Decoder.run_bind_of_run hrows, hend, hnext]
  rfl

/-! ## Payloads -/

theorem write_nil : write [] = [] := rfl

theorem write_of_ne_nil (h : chunks ≠ []) :
    write chunks = writeTable chunks ++ chunks.flatMap FramedChunk.payload := by
  have hempty : chunks.isEmpty = false := List.isEmpty_eq_false_iff.2 h
  rw [write, hempty, if_neg Bool.false_ne_true]

theorem write_eq_nil_iff : write chunks = [] ↔ chunks = [] := by
  constructor
  · intro hnil
    by_contra hne
    have hlength := congrArg List.length (write_of_ne_nil hne)
    rw [hnil, List.length_append, length_writeTable, List.length_nil] at hlength
    omega
  · rintro rfl
    exact write_nil

/-- A payload is no longer than the user data. -/
theorem length_payload_le {chunk : FramedChunk} (h : chunk ∈ chunks) :
    chunk.payload.length ≤ (write chunks).length := by
  have hmem : chunk.payload ∈ chunks.map FramedChunk.payload := List.mem_map_of_mem h
  have hle := (List.sublist_flatten_of_mem hmem).length_le
  rw [write_of_ne_nil (List.ne_nil_of_mem h), List.length_append, List.flatMap_def]
  exact Nat.le_add_left_of_le hle

/-- The entry cuts a chunk out of the buffer: it has the id, the kind and the octets of it. -/
structure Frames (category : Category) (data : Octets) (entry : Entry) (chunk : FramedChunk) :
    Prop where
  id : entry.id = chunk.id
  size : entry.size.toNat = chunk.payload.length
  kind : entry.kind = category.chunkKind? chunk.id
  payload : entry.payload data = chunk.payload.toArray

/-- Entries that are placed where the payloads begin cut the payloads out. -/
theorem forall₂_frames_layOut (category : Category) (front back : List UInt8)
    (hsize : (front ++ chunks.flatMap FramedChunk.payload).length < UInt32.size) :
    List.Forall₂ (Frames category
        (front ++ chunks.flatMap FramedChunk.payload ++ back).toArray)
      (layOut category (UInt32.ofNat front.length) (chunks.map FramedChunk.row)) chunks := by
  induction chunks generalizing front with
  | nil => exact .nil
  | cons chunk chunks ih =>
    rw [List.flatMap_cons, ← List.append_assoc] at hsize ⊢
    have hword : (front ++ chunk.payload).length < UInt32.size :=
      Nat.lt_of_le_of_lt (by simp) hsize
    rw [List.length_append] at hword
    have hoffset : (UInt32.ofNat front.length).toNat = front.length := by
      rw [UInt32.toNat_ofNat', Nat.mod_eq_of_lt (Nat.lt_of_le_of_lt (Nat.le_add_right _ _) hword)]
    have hlength : (UInt32.ofNat chunk.payload.length).toNat = chunk.payload.length := by
      rw [UInt32.toNat_ofNat', Nat.mod_eq_of_lt (Nat.lt_of_le_of_lt (Nat.le_add_left _ _) hword)]
    refine .cons ⟨rfl, hlength, rfl, ?_⟩ ?_
    · rw [Entry.payload, hoffset, hlength, List.append_assoc _ _ back]
      exact Octets.extract_middle _ _ _
    · have hnext := ih (front ++ chunk.payload) hsize
      rw [List.length_append, UInt32.ofNat_add] at hnext
      exact hnext

end Directory
end GameBox
