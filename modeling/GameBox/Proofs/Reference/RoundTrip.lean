import GameBox.Proofs.Reading.Refusal
import GameBox.Proofs.Reading.Text
import GameBox.Reference.Write

/-!
# Tables of references that were written are read back

The trees of folders are written without marks: every list stands behind its count, and where a
list ends follows from the counts inside it.  The reader goes down with a number of levels that are
left, and this number is what the induction is on.  As many levels as the trees have are enough
(`Folder.reads_listDecoder`).  With fewer levels the reader meets a list that has folders in it and
no level left, and everything in front of this list was read (`Folder.refuses_listDecoder`).

The paths of folders are not in the octets.  The reader passes the path of the parent down, and
`Folder.path_of_trail_placeAll` says what this amounts to: a path is the names from the root down.

A reference has fields that depend on others.  Its form is decided by its flags, the version and the
number of its folder, and `Reference.IsValid` says when the three agree with what is there.
-/

namespace GameBox

variable {encoding : Encoding}

namespace Folder

variable {folders : List Folder} {parent : String}

/-! ## Lists of folders as lists -/

theorem placeAll_eq_map (parent : String) (folders : List Folder) :
    placeAll parent folders = folders.map (place parent) := by
  induction folders with
  | nil => rw [placeAll, List.map_nil]
  | cons folder folders ih => rw [placeAll, ih, List.map_cons]

theorem writeEach_eq_flatMap (encoding : Encoding) (folders : List Folder) :
    writeEach encoding folders = folders.flatMap (write encoding) := by
  induction folders with
  | nil => rw [writeEach, List.flatMap_nil]
  | cons folder folders ih => rw [writeEach, ih, List.flatMap_cons]

theorem fitsEach_iff : FitsEach encoding folders ↔ ∀ folder ∈ folders, Fits encoding folder := by
  induction folders with
  | nil => simp [FitsEach]
  | cons folder folders ih => rw [FitsEach, ih, List.forall_mem_cons]

/-- The levels of a list are those of its deepest folder. -/
theorem depthAll_le_iff {levels : Nat} :
    depthAll folders ≤ levels ↔ ∀ folder ∈ folders, depth folder ≤ levels := by
  induction folders with
  | nil => simp [depthAll]
  | cons folder folders ih => rw [depthAll, Nat.max_le, ih, List.forall_mem_cons]

theorem depth_eq (folder : Folder) : depth folder = depthAll folder.children + 1 := by
  cases folder
  rw [depth]

theorem place_eq (parent : String) (folder : Folder) :
    place parent folder = ⟨folder.name, extendPath parent folder.name,
      placeAll (extendPath parent folder.name) folder.children⟩ := by
  cases folder
  rw [place]

theorem write_eq (encoding : Encoding) (folder : Folder) :
    write encoding folder =
      Field.string.write encoding folder.name ++ writeList encoding folder.children := by
  cases folder
  rw [write, writeList, List.append_assoc]

theorem fits_iff {folder : Folder} :
    Fits encoding folder ↔ Field.Fits encoding .string folder.name ∧
      folder.children.length < limit.toNat ∧ FitsEach encoding folder.children := by
  cases folder
  rw [Fits]

/-- Every folder has a level. -/
theorem depthAll_le_zero_iff : depthAll folders ≤ 0 ↔ folders = [] := by
  cases folders with
  | nil => simp [depthAll]
  | cons folder folders =>
    rw [depthAll_le_iff, List.forall_mem_cons, depth_eq]
    simp

/-! ## Reading the trees -/

theorem toNat_count (hlength : folders.length < limit.toNat) :
    (UInt32.ofNat folders.length).toNat = folders.length := by
  have hlimit : limit.toNat = 50000 := rfl
  rw [UInt32.toNat_ofNat', Nat.mod_eq_of_lt (by omega)]

theorem reads_countDecoder (hlength : folders.length < limit.toNat) :
    Decoder.Reads encoding countDecoder () (writeCount encoding folders)
      (UInt32.ofNat folders.length) () := by
  have hcount : ¬limit ≤ UInt32.ofNat folders.length := by
    rw [UInt32.not_le, UInt32.lt_iff_toNat_lt, toNat_count hlength]
    exact hlength
  refine (Decoder.Reads.writeNat32 encoding (UInt32.ofNat folders.length) ()).finish ?_
  rw [if_neg hcount]
  exact .done _ _

section
variable {inside : (parent : String) → Decoder Unit (List Folder)} {folder : Folder}

/-- A folder is read if the list inside it is. -/
theorem reads_folderDecoder (hname : Field.Fits encoding .string folder.name)
    (h : Decoder.Reads encoding (inside (extendPath parent folder.name)) ()
      (writeList encoding folder.children)
      (placeAll (extendPath parent folder.name) folder.children) ()) :
    Decoder.Reads encoding (listDecoder.folderDecoder inside parent) () (write encoding folder)
      (place parent folder) () := by
  rw [write_eq, place_eq]
  exact (Decoder.Reads.write encoding .string (by decide) hname ()).bind
    (h.finish (.done _ _))

/-- A folder is refused if the list inside it is. -/
theorem refuses_folderDecoder {error : DecodeError}
    (hname : Field.Fits encoding .string folder.name)
    (h : Decoder.Refuses encoding (inside (extendPath parent folder.name)) ()
      (writeList encoding folder.children) error) :
    Decoder.Refuses encoding (listDecoder.folderDecoder inside parent) () (write encoding folder)
      error := by
  rw [write_eq]
  exact (Decoder.Reads.write encoding .string (by decide) hname ()).refuses
    (h.bind _)

end

/-- **Trees of folders.**  They are read back, with the paths that their names give, if there is a
level for each of theirs. -/
theorem reads_listDecoder (levels : Nat) (parent : String) (folders : List Folder)
    (hdepth : depthAll folders ≤ levels) (hlength : folders.length < limit.toNat)
    (hfits : FitsEach encoding folders) :
    Decoder.Reads encoding (listDecoder levels parent) () (writeList encoding folders)
      (placeAll parent folders) () := by
  induction levels generalizing parent folders with
  | zero =>
    obtain rfl := depthAll_le_zero_iff.1 hdepth
    rw [writeList, writeEach, List.append_nil, placeAll]
    exact (reads_countDecoder hlength).finish (.done _ _)
  | succ levels ih =>
    rw [depthAll_le_iff] at hdepth
    rw [fitsEach_iff] at hfits
    rw [writeList, writeEach_eq_flatMap, placeAll_eq_map]
    refine (reads_countDecoder hlength).bind ?_
    rw [toNat_count hlength]
    refine .times _ _ folders fun folder hmem => ?_
    obtain ⟨hname, hchildren, hinside⟩ := fits_iff.1 (hfits folder hmem)
    have hshallow := hdepth folder hmem
    rw [depth_eq, Nat.add_le_add_iff_right] at hshallow
    exact reads_folderDecoder hname (ih _ _ hshallow hchildren hinside)

/-- **Trees that are too deep** are refused. -/
theorem refuses_listDecoder (levels : Nat) (parent : String) (folders : List Folder)
    (hdepth : levels < depthAll folders) (hlength : folders.length < limit.toNat)
    (hfits : FitsEach encoding folders) :
    Decoder.Refuses encoding (listDecoder levels parent) () (writeList encoding folders)
      (.folderTooDeep maxDepth) := by
  rw [← Nat.not_le] at hdepth
  induction levels generalizing parent folders with
  | zero =>
    have hpos : 0 < UInt32.ofNat folders.length := by
      rw [UInt32.lt_iff_toNat_lt, toNat_count hlength]
      exact List.length_pos_of_ne_nil (mt depthAll_le_zero_iff.2 hdepth)
    refine (reads_countDecoder hlength).refuses ?_
    rw [if_pos hpos]
    exact (Decoder.Refuses.fail _ ()).append _
  | succ levels ih =>
    rw [depthAll_le_iff] at hdepth
    rw [fitsEach_iff] at hfits
    rw [writeList, writeEach_eq_flatMap]
    refine (reads_countDecoder hlength).refuses ?_
    rw [toNat_count hlength]
    -- The folders in front of the first one that is too deep are read.
    refine .times (write encoding) (place parent) (fun folder => depth folder ≤ levels + 1) ?_ ?_
      (by simpa using hdepth)
    · intro folder hmem hshallow
      obtain ⟨hname, hchildren, hinside⟩ := fits_iff.1 (hfits folder hmem)
      rw [depth_eq, Nat.add_le_add_iff_right] at hshallow
      exact reads_folderDecoder hname (reads_listDecoder levels _ _ hshallow hchildren hinside)
    · intro folder hmem hdeep
      obtain ⟨hname, hchildren, hinside⟩ := fits_iff.1 (hfits folder hmem)
      rw [depth_eq, Nat.add_le_add_iff_right] at hdeep
      exact refuses_folderDecoder hname (ih _ _ hdeep hchildren hinside)

/-! ## Paths -/

/-- The path of a folder is the names from the root down to it. -/
theorem path_of_trail_placeAll {names : List String} {folder : Folder}
    (h : Trail (placeAll parent folders) names folder) : folder.path = parent ++ pathOf names := by
  generalize hplaced : placeAll parent folders = placed at h
  induction h generalizing parent folders with
  | @root placed folder hmem =>
    rw [← hplaced, placeAll_eq_map, List.mem_map] at hmem
    obtain ⟨bare, -, rfl⟩ := hmem
    rw [place_eq, pathOf, pathOf, String.append_empty, extendPath, String.append_assoc]
  | @inside placed above folder names hmem _ ih =>
    rw [← hplaced, placeAll_eq_map, List.mem_map] at hmem
    obtain ⟨bare, -, rfl⟩ := hmem
    rw [place_eq] at ih
    rw [ih rfl, place_eq, pathOf, extendPath]
    simp only [String.append_assoc]

end Folder

/-! ## References -/

namespace Reference

variable {version : UInt16} {r : Reference}

theorem reads_targetDecoder (hvalid : r.IsValid version) (hfits : r.Fits encoding) :
    Decoder.Reads encoding (targetDecoder r.flags) () (writeTarget encoding r.target) r.target
      () := by
  obtain ⟨-, -, htarget⟩ := hvalid
  rw [targetDecoder]
  rw [Fits] at hfits
  cases hr : r.target with
  | file name =>
    rw [hr] at htarget hfits
    rw [if_neg (not_not_intro htarget.1)]
    exact (Decoder.Reads.write encoding .string (by decide) hfits ()).finish
      (.done _ _)
  | resource index =>
    rw [hr] at htarget
    rw [if_pos htarget.1]
    exact (Decoder.Reads.writeNat32 encoding index ()).finish (.done _ _)

theorem reads_useFileDecoder (hvalid : r.IsValid version) :
    Decoder.Reads encoding (useFileDecoder version) () (writeOption encoding .bool r.useFile)
      r.useFile () := by
  obtain ⟨huse, -, -⟩ := hvalid
  rw [useFileDecoder]
  cases hr : r.useFile with
  | none =>
    rw [hr] at huse
    rw [if_neg fun h => absurd (huse.2 h) (by decide)]
    exact .done _ _
  | some useFile =>
    rw [hr] at huse
    rw [if_pos (huse.1 rfl)]
    exact (Decoder.Reads.read (Field.reads_write_of_ne encoding .bool (by decide) (by decide)
      useFile) ()).finish (.done _ _)

theorem reads_folderDecoder (hvalid : r.IsValid version) :
    Decoder.Reads encoding (folderDecoder r.target) ()
      (writeOption encoding .nat32 r.folderIndex ++ writeOption encoding .nat64 r.folderExtra)
      (r.folderIndex, r.folderExtra) () := by
  obtain ⟨-, hextra, htarget⟩ := hvalid
  cases hr : r.target with
  | resource index =>
    rw [hr] at htarget
    have hnone : r.folderExtra = none := by
      rw [← Option.not_isSome_iff_eq_none, hextra, htarget.2]
      simp
    rw [htarget.2, hnone]
    exact .done _ _
  | file name =>
    rw [hr] at htarget
    obtain ⟨index, hindex⟩ := Option.isSome_iff_exists.1 htarget.2
    rw [hindex, Option.some.injEq] at hextra
    rw [hindex, folderDecoder]
    refine (Decoder.Reads.writeNat32 encoding index ()).bind ?_
    by_cases hmore : index = extendedFolder
    · obtain ⟨extra, hsome⟩ := Option.isSome_iff_exists.1 (hextra.2 hmore)
      rw [if_pos hmore, hsome]
      exact (Decoder.Reads.read (Field.reads_write_of_ne encoding .nat64 (by decide) (by decide)
        extra) ()).finish (.done _ _)
    · have hnone : r.folderExtra = none := by
        rw [← Option.not_isSome_iff_eq_none, hextra]
        exact hmore
      rw [if_neg hmore, hnone]
      exact .done _ _

theorem reads_decoder (hvalid : r.IsValid version) (hfits : r.Fits encoding) :
    Decoder.Reads encoding (decoder version) () (r.write encoding) r () := by
  simp only [write, List.append_assoc]
  refine (Decoder.Reads.writeNat32 encoding r.flags ()).bind ?_
  refine (reads_targetDecoder hvalid hfits).bind ?_
  refine (Decoder.Reads.writeNat32 encoding r.nodeIndex ()).bind ?_
  refine (reads_useFileDecoder hvalid).bind ?_
  exact (reads_folderDecoder hvalid).finish (.done _ _)

end Reference

/-! ## Tables -/

namespace RefTable

variable {version : UInt16} {table : RefTable}

theorem toNat_count (h : table.Fits encoding version) :
    (UInt32.ofNat table.refs.length).toNat = table.refs.length := by
  rw [UInt32.toNat_ofNat', Nat.mod_eq_of_lt h.refs.2]

theorem reads_decoder (h : table.Fits encoding version)
    (hdepth : Folder.depthAll table.folders ≤ Folder.maxDepth) :
    Decoder.Reads encoding (decoder version (UInt32.ofNat table.refs.length)) ()
      (table.write encoding) { table with folders := Folder.placeAll "" table.folders } () := by
  have hrefs : Decoder.Reads encoding ((Reference.decoder version).times table.refs.length) ()
      (table.refs.flatMap (Reference.write encoding)) (table.refs.map id) () :=
    .times _ _ _ fun r hmem => Reference.reads_decoder (h.eachRef r hmem).1 (h.eachRef r hmem).2
  rw [List.map_id, ← toNat_count h] at hrefs
  rw [write, List.append_assoc]
  exact (Decoder.Reads.writeNat32 encoding table.ancestorLevel ()).bind <|
    (Folder.reads_listDecoder _ "" table.folders hdepth h.folders h.eachFolder).bind <|
      hrefs.finish (.done _ _)

theorem refuses_decoder (h : table.Fits encoding version)
    (hdepth : Folder.maxDepth < Folder.depthAll table.folders) :
    Decoder.Refuses encoding (decoder version (UInt32.ofNat table.refs.length)) ()
      (table.write encoding) (.folderTooDeep Folder.maxDepth) := by
  rw [write, List.append_assoc]
  exact (Decoder.Reads.writeNat32 encoding table.ancestorLevel ()).refuses <|
    ((Folder.refuses_listDecoder _ "" table.folders hdepth h.folders h.eachFolder).append _).bind _

/-- **Tables of references.**  A table that was written is read back, with the paths that the names
of its folders give, and the reader is left behind it.  A table whose folders are nested too deeply
is refused. -/
theorem read_written (h : table.Fits encoding version) (front back : List UInt8) :
    let found := read encoding version false (UInt32.ofNat table.refs.length)
      (front ++ table.write encoding ++ back).toArray front.length
    (Folder.depthAll table.folders ≤ Folder.maxDepth →
      found = ⟨.ok { table with folders := Folder.placeAll "" table.folders },
        front.length + (table.write encoding).length⟩ ∧
      ∀ names folder, Folder.Trail (Folder.placeAll "" table.folders) names folder →
        folder.path = Folder.pathOf names) ∧
    (Folder.maxDepth < Folder.depthAll table.folders →
      found.result = .error (.folderTooDeep Folder.maxDepth)) := by
  have hcount : UInt32.ofNat table.refs.length ≠ 0 := by
    rw [Ne, ← UInt32.toNat_inj, toNat_count h]
    exact h.refs.1.ne'
  intro found
  have hfound : found = read encoding version false (UInt32.ofNat table.refs.length)
      (front ++ table.write encoding ++ back).toArray front.length := rfl
  rw [read, if_neg hcount, if_neg Bool.false_ne_true] at hfound
  constructor
  · intro hdepth
    refine ⟨?_, fun names folder htrail => ?_⟩
    · rw [hfound, reads_decoder h hdepth front back]
    · rw [Folder.path_of_trail_placeAll htrail, String.empty_append]
  · intro hdepth
    rw [hfound]
    exact refuses_decoder h hdepth front back

/-- Folders inside one another. -/
def nested : (depth : Nat) → List Folder
  | 0 => []
  | depth + 1 => [⟨"a", "", nested depth⟩]

theorem depthAll_nested (depth : Nat) : Folder.depthAll (nested depth) = depth := by
  induction depth with
  | zero => rw [nested, Folder.depthAll]
  | succ depth ih =>
    rw [nested, Folder.depthAll, Folder.depthAll, Folder.depth, ih, Nat.max_eq_left (Nat.zero_le _)]

theorem length_nested_le (depth : Nat) : (nested depth).length ≤ 1 := by
  cases depth with
  | zero => exact Nat.zero_le _
  | succ depth => exact Nat.le_refl _

theorem fitsEach_nested (depth : Nat) : Folder.FitsEach .text (nested depth) := by
  induction depth with
  | zero => trivial
  | succ depth ih =>
    have hname : Field.Fits .text .string "a" := by decide
    have hlength : (nested depth).length < Folder.limit.toNat :=
      Nat.lt_of_le_of_lt (length_nested_le depth) (by decide)
    exact ⟨⟨hname, hlength, ih⟩, trivial⟩

/-- A table is read behind an octet and in front of others; one level too many is refused. -/
theorem read_written_nested :
    let refs : List Reference :=
      [⟨0, .file "b", 7, some true, some 2, none⟩, ⟨4, .resource 9, 8, some false, none, none⟩,
        ⟨0, .file "c", 9, some false, some 0xFFFFFFFF, some 5⟩]
    read .text 5 false 3 ([0] ++ write .text ⟨1, nested 2, refs⟩ ++ [1, 2]).toArray 1 =
      ⟨.ok ⟨1, [⟨"a", "a\\", [⟨"a", "a\\a\\", []⟩]⟩], refs⟩,
        1 + (write .text ⟨1, nested 2, refs⟩).length⟩ ∧
    (read .text 5 false 3 ([0] ++ write .text ⟨1, nested 65, refs⟩ ++ [1, 2]).toArray 1).result =
      .error (.folderTooDeep 64) := by
  intro refs
  have hb : Field.Fits .text .string "b" := by decide
  have hc : Field.Fits .text .string "c" := by decide
  have hrefs : ∀ r ∈ refs, r.IsValid 5 ∧ r.Fits .text := by
    simp only [refs, List.forall_mem_cons, List.not_mem_nil, false_imp_iff, implies_true, and_true]
    refine ⟨⟨?_, hb⟩, ⟨?_, trivial⟩, ?_, hc⟩
    · exact ⟨by decide, by decide, by decide⟩
    · exact ⟨by decide, by decide, by decide⟩
    · exact ⟨by decide, by decide, by decide⟩
  have hlength : 0 < refs.length ∧ refs.length < UInt32.size := by decide
  have hfits (depth : Nat) : Fits .text 5 ⟨1, nested depth, refs⟩ :=
    ⟨Nat.lt_of_le_of_lt (length_nested_le depth) (by decide), fitsEach_nested depth, hlength, hrefs⟩
  have hdeep : Folder.maxDepth < Folder.depthAll (nested 65) := by
    rw [depthAll_nested]
    decide
  exact ⟨((read_written (hfits 2) [0] [1, 2]).1 (by decide)).1,
    (read_written (hfits 65) [0] [1, 2]).2 hdeep⟩

end RefTable
end GameBox
