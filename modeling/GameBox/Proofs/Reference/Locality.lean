import GameBox.Reference.Table
import GameBox.Proofs.Reading.Decoder

/-!
# Tables of references depend on their own octets only

A table of references has no length before it.  It ends where its reader stops, and the body
begins there.  So what a file means behind its table hangs on this: a table that was read from
some octets, to their end, is read from the same octets at any place of any file, and ends at the
same octet.

* `Folder.isLocal_listDecoder`: the trees of folders, by induction on the levels that are left.
* `RefTable.isLocal_decoder`: the table.
* `RefTable.read_append`: reading the table in front of and behind other octets.
-/

namespace GameBox
namespace Folder

theorem isLocal_countDecoder : countDecoder.IsLocal := by
  refine (Decoder.isLocal_read _).bind fun count => ?_
  split
  · exact .fail _
  · exact .done _

theorem isLocal_folderDecoder {inside : (parent : String) → Decoder Unit (List Folder)}
    (h : ∀ parent, (inside parent).IsLocal) (parent : String) :
    (listDecoder.folderDecoder inside parent).IsLocal :=
  (Decoder.isLocal_read _).bind fun name => (h (extendPath parent name)).bind fun _ => .done _

/-- The lists of folders, however deep they are. -/
theorem isLocal_listDecoder (levels : Nat) (parent : String) :
    (listDecoder levels parent).IsLocal := by
  induction levels generalizing parent with
  | zero =>
    refine isLocal_countDecoder.bind fun count => ?_
    split
    · exact .fail _
    · exact .done _
  | succ levels ih =>
    exact isLocal_countDecoder.bind fun count => (isLocal_folderDecoder ih parent).times _

end Folder

namespace Reference

theorem isLocal_targetDecoder (flags : UInt32) : (targetDecoder flags).IsLocal := by
  unfold targetDecoder
  split
  · exact (Decoder.isLocal_read _).bind fun _ => .done _
  · exact (Decoder.isLocal_read _).bind fun _ => .done _

theorem isLocal_useFileDecoder (version : UInt16) : (useFileDecoder version).IsLocal := by
  unfold useFileDecoder
  split
  · exact (Decoder.isLocal_read _).bind fun _ => .done _
  · exact .done _

theorem isLocal_folderDecoder (target : RefTarget) : (folderDecoder target).IsLocal := by
  cases target with
  | resource index => exact .done _
  | file name =>
    refine (Decoder.isLocal_read _).bind fun index => ?_
    split
    · exact (Decoder.isLocal_read _).bind fun _ => .done _
    · exact .done _

theorem isLocal_decoder (version : UInt16) : (decoder version).IsLocal :=
  (Decoder.isLocal_read _).bind fun flags =>
    (isLocal_targetDecoder flags).bind fun target =>
      (Decoder.isLocal_read _).bind fun _ =>
        (isLocal_useFileDecoder version).bind fun _ =>
          (isLocal_folderDecoder target).bind fun _ => .done _

end Reference

namespace RefTable

variable {encoding : Encoding} {version : UInt16} {compressed : Bool} {count : UInt32}
variable {table : RefTable} {data : Octets} {pos next : Nat} {piece : List UInt8}

theorem isLocal_decoder (version : UInt16) (count : UInt32) : (decoder version count).IsLocal :=
  (Decoder.isLocal_read _).bind fun _ =>
    (Folder.isLocal_listDecoder _ _).bind fun _ =>
      ((Reference.isLocal_decoder version).times _).bind fun _ => .done _

/-- A table that is read from some octets, and takes all of them, is read from them wherever they
stand. -/
theorem read_append (h : read encoding version false count piece.toArray 0 =
      ⟨.ok table, piece.length⟩) (hcount : count ≠ 0) (front back : List UInt8) :
    read encoding version false count (front ++ piece ++ back).toArray front.length =
      ⟨.ok table, front.length + piece.length⟩ := by
  unfold read at h ⊢
  rw [if_neg hcount, if_neg Bool.false_ne_true] at h ⊢
  cases hrun : (decoder version count).run encoding piece.toArray 0 () with
  | mk result next s =>
  rw [hrun] at h
  simp only [Found.mk.injEq] at h
  obtain ⟨rfl, rfl⟩ := h
  obtain ⟨piece', hspans, hreads⟩ :=
    (isLocal_decoder version count).reads_of_run (Nat.zero_le _) hrun
  rw [hspans.eq_of_length] at hreads
  rw [hreads front back]

/-- A table that was read is the empty one, or was read by the decoder. -/
theorem run_of_read (h : read encoding version compressed count data pos = ⟨.ok table, next⟩) :
    (table = empty ∧ next = pos) ∨
      ∃ s, (decoder version count).run encoding data pos () = ⟨.ok table, next, s⟩ := by
  unfold read at h
  split at h
  · cases h
    exact .inl ⟨rfl, rfl⟩
  · split at h
    · cases h
    · cases hrun : (decoder version count).run encoding data pos () with
      | mk result finish s =>
      rw [hrun] at h
      cases h
      exact .inr ⟨s, rfl⟩

/-- A table that was read stands in the buffer. -/
theorem bounds_of_read (hpos : pos ≤ data.size)
    (h : read encoding version compressed count data pos = ⟨.ok table, next⟩) :
    pos ≤ next ∧ next ≤ data.size := by
  rcases run_of_read h with ⟨-, rfl⟩ | ⟨s, hrun⟩
  · exact ⟨Nat.le_refl _, hpos⟩
  · obtain ⟨piece, hspans, -⟩ := (isLocal_decoder version count).reads_of_run hpos hrun
    exact ⟨hspans.le, hspans.le_size⟩

end RefTable
end GameBox
