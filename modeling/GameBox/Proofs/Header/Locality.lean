import GameBox.Header
import GameBox.Proofs.Reading.Decoder

/-!
# Headers depend on their own octets only

The header of a file names the encoding of everything behind it and gives the size of the user
data, so every other part hangs on it.  It is read from the octets that it consumes: a buffer that
begins with the same octets has the same header.  The counts behind the user data are read in the
same way.

* `Header.isLocal_preludeDecoder`, `Header.isLocal_fieldsDecoder`: the two parts of a header.
* `Header.isLocal_countsDecoder`: the counts.
* `Header.read_of_extract_eq`: buffers that begin with the same header.
-/

namespace GameBox
namespace Header

theorem isLocal_versionDecoder : versionDecoder.IsLocal := by
  refine (Decoder.isLocal_octets _).bind fun prelude => ?_
  dsimp only
  split
  · exact .fail _
  · split
    · exact .fail _
    · exact .done _

theorem isLocal_storageDecoder (version : UInt16) : (storageDecoder version).IsLocal := by
  refine (Decoder.isLocal_octets _).bind fun letters => ?_
  split
  · exact .done _
  · exact .fail _

theorem isLocal_preludeDecoder : preludeDecoder.IsLocal :=
  isLocal_versionDecoder.bind fun version => (isLocal_storageDecoder version).bind fun _ => .done _

theorem isLocal_userDataSizeDecoder (version : UInt16) : (userDataSizeDecoder version).IsLocal := by
  unfold userDataSizeDecoder
  split
  · exact .done _
  · refine (Decoder.isLocal_read _).bind fun size => ?_
    split
    · exact .fail _
    · exact .done _

theorem isLocal_fieldsDecoder (version : UInt16) (storage : Storage) :
    (fieldsDecoder version storage).IsLocal :=
  (Decoder.isLocal_read _).bind fun _ =>
    (isLocal_userDataSizeDecoder version).bind fun _ => .done _

theorem isLocal_countsDecoder : countsDecoder.IsLocal := by
  refine (Decoder.isLocal_read _).bind fun nodes => .change _ ?_
  refine (Decoder.isLocal_read _).bind fun externalRefs => ?_
  split
  · exact .fail _
  · exact .change _ (.done _)

variable {data data' : Octets} {pos next : Nat} {header counted : Header}

/-- Counts that were read stand in the buffer. -/
theorem bounds_of_readCounts (hpos : pos ≤ data.size)
    (h : header.readCounts data pos = ⟨.ok (), next, counted⟩) : pos ≤ next ∧ next ≤ data.size := by
  obtain ⟨piece, hspans, -⟩ := isLocal_countsDecoder.reads_of_run hpos h
  exact ⟨hspans.le, hspans.le_size⟩

/-- A header that was read at the beginning of a buffer is read from some octets, whatever stands
behind them. -/
theorem exists_reads_of_read (h : read data 0 = ⟨.ok header, next⟩) :
    ∃ piece, data.Spans 0 next piece ∧
      ∀ back, read (piece ++ back).toArray 0 = ⟨.ok header, next⟩ := by
  unfold read at h
  split at h
  · simp at h
  · rename_i version storage start s hprelude
    obtain ⟨piece, hspans, hreads⟩ :=
      isLocal_preludeDecoder.reads_of_run (Nat.zero_le _) hprelude
    cases hfields : (fieldsDecoder version storage).run storage.encoding data start () with
    | mk result finish s' =>
    rw [hfields] at h
    simp only [Found.mk.injEq] at h
    obtain ⟨rfl, rfl⟩ := h
    obtain ⟨piece', hspans', hreads'⟩ :=
      (isLocal_fieldsDecoder version storage).reads_of_run hspans.le_size hfields
    refine ⟨piece ++ piece', hspans.append hspans', fun back => ?_⟩
    have hfirst := hreads [] (piece' ++ back)
    have hsecond := hreads' piece back
    rw [List.nil_append, ← List.append_assoc] at hfirst
    obtain ⟨-, -, -, -, rfl⟩ := hspans
    obtain ⟨-, -, -, -, rfl⟩ := hspans'
    rw [List.length_nil, Nat.zero_add] at hfirst
    simp only [read, hfirst, hsecond, Nat.zero_add]

/-- Every buffer that begins with the octets of a header has this header. -/
theorem read_of_extract_eq (h : read data 0 = ⟨.ok header, next⟩)
    (hsame : data'.extract 0 next = data.extract 0 next) : read data' 0 = ⟨.ok header, next⟩ := by
  obtain ⟨piece, hspans, hreads⟩ := exists_reads_of_read h
  have hdata' : data' = (piece ++ data'.toList.drop next).toArray := by
    apply Array.toList_inj.1
    have htake : data'.toList.take next = piece := by
      have hpiece := hspans.toList_extract
      rwa [← hsame, Array.toList_extract, List.extract_eq_take_drop, Nat.sub_zero,
        List.drop_zero] at hpiece
    rw [← htake, List.take_append_drop]
  rw [hdata']
  exact hreads _

end Header

/-- The sizes of a compressed body. -/
theorem Body.isLocal_sizesDecoder : sizesDecoder.IsLocal :=
  (Decoder.isLocal_read _).bind fun _ => (Decoder.isLocal_read _).bind fun _ => .done _

end GameBox
