import GameBox.Proofs.Reading.Width
import GameBox.Proofs.Reference.Walk

/-!
# Tables of references cannot blow up

The count of a list may announce 49999 folders, and each of these may announce as many again, over
sixty-four levels.  Nothing is made of them before they are read.

## What is paid for

The names of all folders stand in the buffer, each with its count (`Folder.Listed`), and a name and
a count take eight octets in a binary file and five in a text file, at the least.  So the octets
between two positions bound the folders that are read between them, at all levels together
(`Folder.Listed.add_mul_length_le`).  A reference has two words and more
(`Reference.takes_decoder`).

## What is refused

The levels and the lengths of lists follow by induction on the levels that are left
(`Folder.bounded_of_run`).  That trees are refused for being too deep only if they are is left to
the walk through them; here it is carried over to tables.
-/

namespace GameBox

variable {encoding : Encoding} {data : Octets} {pos next : Nat}

namespace RefTable

theorem recordWidth_pos (encoding : Encoding) : 0 < recordWidth encoding := by
  cases encoding <;> decide

theorem recordWidth_le_reference (encoding : Encoding) :
    recordWidth encoding ≤ 2 * Field.nat32.leastWidth encoding := by
  cases encoding <;> decide

theorem recordWidth_le_folder (encoding : Encoding) :
    recordWidth encoding ≤ Field.string.leastWidth encoding + Field.nat32.leastWidth encoding := by
  cases encoding <;> decide

end RefTable

namespace Folder

variable {folders : List Folder} {parent : String}

/-- Folders whose names stand in the buffer have been paid for. -/
theorem Listed.add_mul_length_le (h : Listed encoding data pos folders next) :
    pos + RefTable.recordWidth encoding * folders.length ≤ next := by
  induction h with
  | nil pos => exact Nat.le_refl _
  | cons hname hcount _ _ ih =>
    have hmiddle := Field.add_leastWidth_le hname
    have hnext := Field.add_leastWidth_le hcount
    have hwidth := RefTable.recordWidth_le_folder encoding
    rw [List.length_cons, Nat.mul_succ]
    omega

theorem lt_limit_of_countDecoder_run {count : UInt32} {s s' : Unit}
    (h : countDecoder.run encoding data pos s = ⟨.ok count, next, s'⟩) : count.toNat < 50000 := by
  obtain ⟨value, middle, s₁, hread, hrest⟩ := Decoder.exists_run_of_bind h
  obtain ⟨hlimit, hdone⟩ := Decoder.run_of_unless_fail hrest
  obtain ⟨rfl, -, -⟩ := Decoder.pure_of_run hdone
  exact UInt32.lt_iff_toNat_lt.1 (UInt32.not_le.1 hlimit)

/-- A list and all lists inside it have less folders than the limit. -/
def IsNarrow (folders : List Folder) : Prop :=
  folders.length < 50000 ∧ ∀ folder ∈ preorderAll folders, folder.children.length < 50000

/-- A list of folders that is read is no deeper than the levels that were left, and no list in it
has too many folders. -/
theorem bounded_of_run (levels : Nat)
    (h : (listDecoder levels parent).run encoding data pos () = ⟨.ok folders, next, ()⟩) :
    depthAll folders ≤ levels ∧ IsNarrow folders := by
  induction levels generalizing parent folders pos next with
  | zero =>
    obtain ⟨count, start, s₁, hcount, hrest⟩ := Decoder.exists_run_of_bind h
    obtain ⟨hzero, hdone⟩ := Decoder.run_of_unless_fail hrest
    obtain ⟨rfl, rfl, -⟩ := Decoder.pure_of_run hdone
    exact ⟨depthAll_le_zero_iff.2 rfl, by decide, by simp⟩
  | succ levels ih =>
    obtain ⟨count, start, s₁, hcount, hrest⟩ := Decoder.exists_run_of_bind h
    have hrounds := Decoder.times_invariant
      (fun folders _ _ => depthAll folders ≤ levels + 1 ∧
        ∀ folder ∈ preorderAll folders, folder.children.length < 50000)
      (fun folders pos s folder next s' hsofar hround => ?_) ⟨by simp [depthAll], by simp⟩ hrest
    · obtain ⟨hlength, hdepth, hchildren⟩ := hrounds
      exact ⟨hdepth, hlength ▸ lt_limit_of_countDecoder_run hcount, hchildren⟩
    · obtain ⟨hdepth, hchildren⟩ := hsofar
      obtain ⟨name, middle, s₁, -, hinside⟩ := Decoder.exists_run_of_bind hround
      obtain ⟨inner, finish, s₂, hinner, hdone⟩ := Decoder.exists_run_of_bind hinside
      obtain ⟨rfl, -, -⟩ := Decoder.pure_of_run hdone
      obtain ⟨hinnerDepth, hinnerLength, hinnerChildren⟩ := ih hinner
      constructor
      · rw [depthAll_le_iff] at hdepth ⊢
        rw [List.forall_mem_append, List.forall_mem_singleton, depth_eq]
        exact ⟨hdepth, Nat.succ_le_succ hinnerDepth⟩
      · rw [preorderAll_append, preorderAll_singleton, List.forall_mem_append,
          List.forall_mem_cons]
        exact ⟨hchildren, hinnerLength, hinnerChildren⟩

end Folder

namespace Reference

theorem takes_targetDecoder (encoding : Encoding) (flags : UInt32) :
    (targetDecoder flags).Takes encoding 0 := by
  unfold targetDecoder
  split
  · exact .field .nat32 (Nat.zero_le _) fun _ => .done _
  · exact .field .string (Nat.zero_le _) fun _ => .done _

theorem takes_useFileDecoder (encoding : Encoding) (version : UInt16) :
    (useFileDecoder version).Takes encoding 0 := by
  unfold useFileDecoder
  split
  · exact .field .bool (Nat.zero_le _) fun _ => .done _
  · exact .done _

theorem takes_folderDecoder (encoding : Encoding) (target : RefTarget) :
    (folderDecoder target).Takes encoding 0 := by
  cases target with
  | resource index => exact .done _
  | file name =>
    refine .field .nat32 (Nat.zero_le (_ + 0)) fun index => ?_
    show Decoder.Takes encoding 0 (if index = extendedFolder then _ else _)
    split
    · exact .field .nat64 (Nat.zero_le _) fun _ => .done _
    · exact .done _

/-- The flags and the node of a reference are two words. -/
theorem takes_decoder (encoding : Encoding) (version : UInt16) :
    (decoder version).Takes encoding (2 * Field.nat32.leastWidth encoding) := by
  have htakes : (decoder version).Takes encoding (Field.nat32.leastWidth encoding +
      (0 + (Field.nat32.leastWidth encoding + (0 + (0 + 0))))) :=
    (Decoder.takes_read encoding .nat32).bind fun flags =>
      (takes_targetDecoder encoding flags).bind fun target =>
        (Decoder.takes_read encoding .nat32).bind fun _ =>
          (takes_useFileDecoder encoding version).bind fun _ =>
            (takes_folderDecoder encoding target).bind fun _ => .done _
  simpa only [Nat.zero_add, Nat.add_zero, Nat.two_mul] using htakes

end Reference

namespace RefTable

variable {version : UInt16} {compressed : Bool} {count : UInt32} {table : RefTable}

theorem bounded_empty (encoding : Encoding) (pos : Nat) :
    Bounded encoding 0 pos pos empty where
  depth := Nat.zero_le _
  roots := by decide
  children := by
    rintro names folder (⟨hmem⟩ | ⟨hmem, -⟩) <;> cases hmem
  refs := rfl
  forward := Nat.le_refl _
  paid := Nat.zero_le _

/-- The octets of a table are those of its folders and its references and a few more. -/
theorem bounded_of_run {s s' : Unit}
    (h : (decoder version count).run encoding data pos s = ⟨.ok table, next, s'⟩) :
    Bounded encoding count pos next table := by
  obtain ⟨ancestorLevel, middle, s₁, hancestor, hrest⟩ := Decoder.exists_run_of_bind h
  obtain ⟨folders, finish, s₂, hfolders, hrest⟩ := Decoder.exists_run_of_bind hrest
  obtain ⟨refs, last, s₃, hrefs, hdone⟩ := Decoder.exists_run_of_bind hrest
  obtain ⟨rfl, rfl, -⟩ := Decoder.pure_of_run hdone
  obtain ⟨hdepth, hlength, hchildren⟩ := Folder.bounded_of_run _ hfolders
  obtain ⟨-, trees, start, htrees, -, hlisted⟩ := Folder.listed_of_run _ hfolders
  have hcount : refs.length = count.toNat :=
    (Decoder.times_invariant (fun _ _ _ => True) (fun _ _ _ _ _ _ _ _ => trivial) trivial hrefs).1
  have hbefore := Field.add_leastWidth_le (Decoder.read_of_run hancestor).1
  have hroots := Field.add_leastWidth_le htrees
  have hpaid := hlisted.add_mul_length_le
  have hafter := ((Reference.takes_decoder encoding version).times count.toNat).add_le_of_run hrefs
  have hrefsPaid : recordWidth encoding * count.toNat ≤
      2 * Field.nat32.leastWidth encoding * count.toNat :=
    Nat.mul_le_mul_right _ (recordWidth_le_reference encoding)
  rw [Folder.length_preorderAll] at hpaid
  refine ⟨hdepth, hlength, fun names folder htrail => hchildren _ htrail.mem_preorderAll, hcount,
    by omega, ?_⟩
  show Folder.sizeAll folders + refs.length ≤ _
  rw [hcount, Nat.le_div_iff_mul_le (recordWidth_pos encoding), Nat.add_mul,
    Nat.mul_comm _ (recordWidth encoding), Nat.mul_comm _ (recordWidth encoding)]
  omega

/-- Only the trees of a table are refused for being too deep: the other parts of it fail where a
field cannot be read. -/
theorem result_decoder_eq_folderTooDeep_iff {levels : Nat} :
    ((decoder version count).run encoding data pos ()).result = .error (.folderTooDeep levels) ↔
      ∃ ancestorLevel start, Field.nat32.read encoding data pos = ⟨.ok ancestorLevel, start⟩ ∧
        ((Folder.listDecoder Folder.maxDepth "").run encoding data start ()).result =
          .error (.folderTooDeep levels) := by
  show ((Decoder.field .nat32 _).run encoding data pos ()).result = _ ↔ _
  cases hancestor : Field.nat32.read encoding data pos with
  | mk result start =>
  cases result with
  | error error =>
    rw [Decoder.run_field_of_error hancestor]
    simp
  | ok ancestorLevel =>
    rw [Decoder.run_field_of_read hancestor]
    show (((Folder.listDecoder Folder.maxDepth "").bind _).run
      encoding data start ()).result = _ ↔ _
    rw [Decoder.run_bind]
    cases hfolders : (Folder.listDecoder Folder.maxDepth "").run encoding data start () with
    | mk result finish s =>
    cases result with
    | error error => simp [hfolders]
    | ok folders =>
      have hrefs : ∀ cause, ((Decoder.bind ((Reference.decoder version).times count.toNat)
          fun refs => .done (RefTable.mk ancestorLevel folders refs)).run
            encoding data finish ()).result = .error cause → ∃ error, cause = .read error :=
        fun cause => (((Reference.takes_decoder encoding version).times count.toNat).bind
          fun refs => .done _).exists_read_of_error
      constructor
      · intro h
        obtain ⟨error, herror⟩ := hrefs _ h
        cases herror
      · rintro ⟨_, _, heq, herror⟩
        cases heq
        rw [hfolders] at herror
        cases herror

/-- **Tables of references cannot blow up.**  Of whatever octets a table is read, its trees are at
most sixty-four levels deep, no list has fifty thousand folders or more, there are as many
references as were asked for, and every folder and every reference was paid for with octets.  Trees
that are refused for being too deep are so: by valid fields in the order of the file, a list of
folders on the next level is reached. -/
theorem read_bounded (encoding : Encoding) (version : UInt16) (compressed : Bool) (count : UInt32)
    (data : Octets) (pos : Nat) :
    (∀ table next, read encoding version compressed count data pos = ⟨.ok table, next⟩ →
      Bounded encoding count pos next table) ∧
    ∀ levels, (read encoding version compressed count data pos).result =
        .error (.folderTooDeep levels) ↔
      levels = 64 ∧ count ≠ 0 ∧ compressed = false ∧ MeetsDeepList encoding data pos := by
  by_cases hcount : count = 0
  · subst hcount
    refine ⟨fun table next h => ?_, fun levels => ⟨fun h => ?_, fun h => absurd rfl h.2.1⟩⟩
    · cases h
      exact bounded_empty encoding pos
    · cases h
  rw [read, if_neg hcount]
  cases compressed with
  | true =>
    rw [if_pos rfl]
    refine ⟨fun table next h => ?_, fun levels => ⟨fun h => ?_, fun h => ?_⟩⟩
    · cases h
    · cases h
    · cases h.2.2.1
  | false =>
    rw [if_neg Bool.false_ne_true]
    refine ⟨fun table next h => ?_, fun levels => ?_⟩
    · cases hrun : (decoder version count).run encoding data pos () with
      | mk result finish s =>
      rw [hrun] at h
      cases h
      exact bounded_of_run hrun
    · simp only [result_decoder_eq_folderTooDeep_iff, Folder.Walk.result_listDecoder_eq_error_iff,
        Folder.Walk.refuses_folderTooDeep_iff]
      constructor
      · rintro ⟨ancestorLevel, start, hancestor, hlevels, place, outer, count, next, hdeep⟩
        exact ⟨hlevels, hcount, trivial, ancestorLevel, start, place, outer, count, next, hancestor,
          hdeep⟩
      · rintro ⟨hlevels, -, -, ancestorLevel, start, place, outer, count, next, hancestor, hdeep⟩
        exact ⟨ancestorLevel, start, hancestor, hlevels, place, outer, count, next, hdeep⟩

/-- A table that was written with trees that are too deep is refused at the first position, too. -/
theorem result_read_of_deep (h : table.Fits encoding version)
    (hdepth : Folder.maxDepth < Folder.depthAll table.folders) :
    (read encoding version false (UInt32.ofNat table.refs.length) (table.write encoding).toArray
      0).result = .error (.folderTooDeep 64) := by
  have hcount : UInt32.ofNat table.refs.length ≠ 0 := by
    rw [Ne, ← UInt32.toNat_inj, toNat_count h]
    exact h.refs.1.ne'
  have hrefused := refuses_decoder h hdepth [] []
  rw [List.nil_append, List.append_nil] at hrefused
  rw [read, if_neg hcount, if_neg Bool.false_ne_true]
  exact hrefused

/-- A tree with a folder inside another and one next to it is paid for by its octets; in sixty-five
folders inside one another, the list that is too deep is met. -/
theorem read_bounded_nested :
    let data : Octets := #[9, 1, 0, 0, 0, 2, 0, 0, 0,
      1, 0, 0, 0, 0x61, 1, 0, 0, 0, 1, 0, 0, 0, 0x62, 0, 0, 0, 0, 1, 0, 0, 0, 0x63, 0, 0, 0, 0,
      0, 0, 0, 0, 1, 0, 0, 0, 0x64, 7, 0, 0, 0, 3, 0, 0, 0, 8]
    let table : RefTable := ⟨1, [⟨"a", "a\\", [⟨"b", "a\\b\\", []⟩]⟩, ⟨"c", "c\\", []⟩],
      [⟨0, .file "d", 7, none, some 3, none⟩]⟩
    let deep : RefTable := ⟨1, nested 65, [⟨4, .resource 9, 8, some false, none, none⟩]⟩
    read .binary 3 false 1 data 1 = ⟨.ok table, 53⟩ ∧ Bounded .binary 1 1 53 table ∧
      MeetsDeepList .text (write .text deep).toArray 0 := by
  intro data table deep
  have hread : read .binary 3 false 1 data 1 = ⟨.ok table, 53⟩ := by
    simp only [data, table]
    rfl
  have hfits : Fits .text 5 deep := by
    refine ⟨Nat.lt_of_le_of_lt (length_nested_le 65) (by decide), fitsEach_nested 65, by decide, ?_⟩
    rw [List.forall_mem_singleton]
    exact ⟨⟨by decide, by decide, by decide⟩, trivial⟩
  have hdeep : Folder.maxDepth < Folder.depthAll deep.folders := by
    rw [depthAll_nested]
    decide
  refine ⟨hread, (read_bounded .binary 3 false 1 data 1).1 _ _ hread, ?_⟩
  have hrefused := result_read_of_deep hfits hdeep
  exact (((read_bounded .text 5 false _ _ 0).2 64).1 hrefused).2.2.2

end RefTable
end GameBox
