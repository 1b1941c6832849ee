import GameBox.Proofs.Reference.Locality
import GameBox.Proofs.Reference.RoundTrip
import GameBox.Reference.Order

/-!
# The numbers of folders

Three recursions have to agree about a table of references.  The reader goes down into the trees
and hands the path of the parent on, the list of all folders is made from the trees, and a number
is a place in this list.

The reader is followed by induction on the levels that are left.  Its invariant has two halves: the
folders have the paths that their names give (`placeAll` leaves them as they are), and their names
stand in the buffer in the order of the list (`Folder.Listed`).  Both are kept by a round of the
repetition, and both are what is needed of the list inside a folder (`Folder.listed_of_run`).

What is said about numbers then holds of every table whose paths fit its names, wherever it came
from (`Folder.path?_of_le`, `Folder.path?_eq_none_iff`).
-/

namespace GameBox

variable {encoding : Encoding} {data : Octets} {pos middle next : Nat}

namespace Folder

variable {folder other : Folder} {folders folders' : List Folder} {parent : String}

/-! ## All folders of some trees -/

theorem preorder_eq (folder : Folder) :
    preorder folder = folder :: preorderAll folder.children := by
  cases folder
  rw [preorder]

theorem preorderAll_eq_flatMap (folders : List Folder) :
    preorderAll folders = folders.flatMap preorder := by
  induction folders with
  | nil => rw [preorderAll_nil, List.flatMap_nil]
  | cons folder folders ih => rw [preorderAll_cons, ih, List.flatMap_cons]

theorem preorderAll_append (folders folders' : List Folder) :
    preorderAll (folders ++ folders') = preorderAll folders ++ preorderAll folders' := by
  simp only [preorderAll_eq_flatMap, List.flatMap_append]

theorem preorderAll_singleton (folder : Folder) :
    preorderAll [folder] = folder :: preorderAll folder.children := by
  rw [preorderAll_cons, preorderAll_nil, List.append_nil, preorder_eq]

mutual

theorem length_preorder : (folder : Folder) → (preorder folder).length = size folder
  | ⟨_, _, children⟩ => by rw [preorder, size, List.length_cons, length_preorderAll children]

/-- The list of all folders has a place for every one of them. -/
theorem length_preorderAll : (folders : List Folder) →
    (preorderAll folders).length = sizeAll folders
  | [] => by rw [preorderAll, sizeAll, List.length_nil]
  | folder :: folders => by
    rw [preorderAll, sizeAll, List.length_append, length_preorder folder,
      length_preorderAll folders]

end

theorem Trail.cons {names : List String} (h : Trail folders names other) (folder : Folder) :
    Trail (folder :: folders) names other := by
  cases h with
  | root hmem => exact .root (List.mem_cons_of_mem _ hmem)
  | inside hmem hinside => exact .inside (List.mem_cons_of_mem _ hmem) hinside

mutual

theorem trail_of_mem_preorder : (folder : Folder) → other ∈ preorder folder →
    other = folder ∨ ∃ names, Trail folder.children names other
  | ⟨_, _, children⟩, h => by
    rw [preorder, List.mem_cons] at h
    exact h.imp_right (trail_of_mem_preorderAll children)

/-- Every folder of the list is reached from a root. -/
theorem trail_of_mem_preorderAll : (folders : List Folder) → other ∈ preorderAll folders →
    ∃ names, Trail folders names other
  | [], h => by simp at h
  | folder :: folders, h => by
    rw [preorderAll_cons, List.mem_append] at h
    rcases h with h | h
    · rcases trail_of_mem_preorder folder h with rfl | ⟨names, htrail⟩
      · exact ⟨_, .root List.mem_cons_self⟩
      · exact ⟨_, .inside List.mem_cons_self htrail⟩
    · obtain ⟨names, htrail⟩ := trail_of_mem_preorderAll folders h
      exact ⟨names, htrail.cons folder⟩

end

theorem Trail.mem_preorderAll {names : List String} (h : Trail folders names folder) :
    folder ∈ preorderAll folders := by
  induction h with
  | root hmem =>
    rw [preorderAll_eq_flatMap, List.mem_flatMap]
    exact ⟨_, hmem, by rw [preorder_eq]; exact List.mem_cons_self⟩
  | inside hmem _ ih =>
    rw [preorderAll_eq_flatMap, List.mem_flatMap]
    exact ⟨_, hmem, by rw [preorder_eq]; exact List.mem_cons_of_mem _ ih⟩

theorem mem_preorderAll_iff : folder ∈ preorderAll folders ↔ ∃ names, Trail folders names folder :=
  ⟨trail_of_mem_preorderAll folders, fun ⟨_, htrail⟩ => htrail.mem_preorderAll⟩

/-! ## Numbers -/

/-- A number that is not zero is a place in the list, counted from one. -/
theorem path?_of_pos {number : UInt32} (h : 0 < number) (folders : List Folder) :
    path? folders number = (preorderAll folders)[number.toNat - 1]?.map Folder.path := by
  have hne : number ≠ 0 := UInt32.pos_iff_ne_zero.1 h
  rw [path?, if_neg hne]

/-- No folder has a number that is greater than the number of folders, and every other number has
a path. -/
theorem path?_eq_none_iff {number : UInt32} :
    path? folders number = none ↔ sizeAll folders < number.toNat := by
  by_cases hzero : number = 0
  · subst hzero
    simp
  · have hpos : 0 < number := UInt32.pos_iff_ne_zero.2 hzero
    have hnat : 0 < number.toNat := UInt32.lt_iff_toNat_lt.1 hpos
    rw [path?_of_pos hpos, Option.map_eq_none_iff, List.getElem?_eq_none_iff,
      length_preorderAll]
    omega

/-- If the paths of folders fit their names, a number leads to the path that the names from a root
down to its folder make. -/
theorem path?_of_le {number : UInt32} (hplaced : placeAll "" folders = folders)
    (hpos : 0 < number) (hle : number.toNat ≤ sizeAll folders) :
    ∃ folder, (preorderAll folders)[number.toNat - 1]? = some folder ∧
      (∃ names, Trail folders names folder) ∧
      ∀ names, Trail folders names folder → path? folders number = some (pathOf names) := by
  have hnat : 0 < number.toNat := UInt32.lt_iff_toNat_lt.1 hpos
  obtain ⟨folder, hfolder⟩ : ∃ folder, (preorderAll folders)[number.toNat - 1]? = some folder := by
    refine ⟨_, List.getElem?_eq_getElem ?_⟩
    rw [length_preorderAll]
    omega
  refine ⟨folder, hfolder, trail_of_mem_preorderAll folders (List.mem_of_getElem? hfolder),
    fun names htrail => ?_⟩
  rw [← hplaced] at htrail
  rw [path?_of_pos hpos, hfolder, Option.map_some, path_of_trail_placeAll htrail,
    String.empty_append]

/-! ## Reading the trees -/

theorem Listed.append (h : Listed encoding data pos folders middle)
    (h' : Listed encoding data middle folders' next) :
    Listed encoding data pos (folders ++ folders') next := by
  induction h with
  | nil pos => exact h'
  | cons hname hcount hlength _ ih => exact .cons hname hcount hlength (ih h')

/-- A count that was read and is not too large. -/
theorem countDecoder_of_run {count : UInt32} {s s' : Unit}
    (h : countDecoder.run encoding data pos s = ⟨.ok count, next, s'⟩) :
    Field.nat32.read encoding data pos = ⟨.ok count, next⟩ := by
  obtain ⟨value, middle, s₁, hread, hrest⟩ := Decoder.exists_run_of_bind h
  obtain ⟨-, hdone⟩ := Decoder.run_of_unless_fail hrest
  obtain ⟨rfl, rfl, -⟩ := Decoder.pure_of_run hdone
  exact (Decoder.read_of_run hread).1

/-- A list of folders that was read behind its count: the folders have the paths that their names
give, and the names of all folders stand in the buffer in the order of their numbers. -/
def ListedBehind (encoding : Encoding) (data : Octets) (pos : Nat) (parent : String)
    (folders : List Folder) (next : Nat) : Prop :=
  placeAll parent folders = folders ∧ ∃ count start,
    Field.nat32.read encoding data pos = ⟨.ok count, start⟩ ∧ folders.length = count.toNat ∧
    Listed encoding data start (preorderAll folders) next

/-- A folder is read as its name and the list behind it. -/
theorem folderDecoder_of_run {inside : (parent : String) → Decoder Unit (List Folder)}
    {s s' : Unit}
    (hinside : ∀ {parent folders pos next},
      (inside parent).run encoding data pos () = ⟨.ok folders, next, ()⟩ →
        ListedBehind encoding data pos parent folders next)
    (h : (listDecoder.folderDecoder inside parent).run encoding data pos s =
      ⟨.ok folder, next, s'⟩) :
    place parent folder = folder ∧ Listed encoding data pos (preorderAll [folder]) next := by
  obtain ⟨name, middle, s₁, hname, hrest⟩ := Decoder.exists_run_of_bind h
  obtain ⟨children, finish, s₂, hchildren, hdone⟩ := Decoder.exists_run_of_bind hrest
  obtain ⟨rfl, rfl, -⟩ := Decoder.pure_of_run hdone
  obtain ⟨hplaced, count, start, hcount, hlength, hlisted⟩ := hinside hchildren
  constructor
  · rw [place_eq, hplaced]
  · rw [preorderAll_singleton]
    exact .cons (Decoder.read_of_run hname).1 hcount hlength hlisted

theorem listed_of_run (levels : Nat)
    (h : (listDecoder levels parent).run encoding data pos () = ⟨.ok folders, next, ()⟩) :
    ListedBehind encoding data pos parent folders next := by
  induction levels generalizing parent folders pos next with
  | zero =>
    obtain ⟨count, start, s₁, hcount, hrest⟩ := Decoder.exists_run_of_bind h
    obtain ⟨hzero, hdone⟩ := Decoder.run_of_unless_fail hrest
    obtain ⟨rfl, rfl, -⟩ := Decoder.pure_of_run hdone
    refine ⟨by rw [placeAll], count, start, countDecoder_of_run hcount, ?_, ?_⟩
    · rw [UInt32.lt_iff_toNat_lt, UInt32.toNat_zero] at hzero
      rw [List.length_nil]
      omega
    · rw [preorderAll_nil]
      exact .nil start
  | succ levels ih =>
    obtain ⟨count, start, s₁, hcount, hrest⟩ := Decoder.exists_run_of_bind h
    have hrounds := Decoder.times_invariant
      (fun folders pos _ => placeAll parent folders = folders ∧
        Listed encoding data start (preorderAll folders) pos)
      (fun folders pos s folder next s' hsofar hround => ?_) ⟨by rw [placeAll], ?_⟩ hrest
    · obtain ⟨hlength, hplaced, hlisted⟩ := hrounds
      exact ⟨hplaced, count, start, countDecoder_of_run hcount, hlength, hlisted⟩
    · obtain ⟨hplaced, hlisted⟩ := hsofar
      obtain ⟨hplace, hfolder⟩ := folderDecoder_of_run ih hround
      constructor
      · rw [placeAll_eq_map] at hplaced ⊢
        rw [List.map_append, hplaced, List.map_singleton, hplace]
      · rw [preorderAll_append]
        exact hlisted.append hfolder
    · rw [preorderAll_nil]
      exact .nil start

end Folder

namespace RefTable

variable {version : UInt16} {compressed : Bool} {count : UInt32} {table : RefTable}

/-- The folders of a table stand behind the level of the ancestor, and the references behind the
folders. -/
theorem listed_of_run {s s' : Unit}
    (h : (decoder version count).run encoding data pos s = ⟨.ok table, next, s'⟩) :
    ∃ middle finish, Field.nat32.read encoding data pos = ⟨.ok table.ancestorLevel, middle⟩ ∧
      Folder.ListedBehind encoding data middle "" table.folders finish ∧ finish ≤ next := by
  obtain ⟨ancestorLevel, middle, s₁, hancestor, hrest⟩ := Decoder.exists_run_of_bind h
  obtain ⟨folders, finish, s₂, hfolders, hrest⟩ := Decoder.exists_run_of_bind hrest
  obtain ⟨refs, last, s₃, hrefs, hdone⟩ := Decoder.exists_run_of_bind hrest
  obtain ⟨rfl, rfl, -⟩ := Decoder.pure_of_run hdone
  have hread := (Decoder.read_of_run hancestor).1
  obtain ⟨_, hfirst, -⟩ := Field.isLocal_read encoding .nat32 hread
  obtain ⟨_, hmiddle, -⟩ :=
    (Folder.isLocal_listDecoder _ _).reads_of_run hfirst.le_size hfolders
  obtain ⟨_, hlast, -⟩ :=
    ((Reference.isLocal_decoder version).times _).reads_of_run hmiddle.le_size hrefs
  exact ⟨middle, finish, hread, Folder.listed_of_run _ hfolders, hlast.le⟩

theorem resolve?_file {ref : Reference} {name : String} (h : ref.target = .file name) :
    table.resolve? ref = (table.folderPath? (ref.folderIndex.getD 0)).map (· ++ name) := by
  rw [resolve?, h]

/-- What the numbers stand for, if the paths of the folders fit their names and the folders stand
in the buffer. -/
theorem numbered_of_placed (hplaced : Folder.placeAll "" table.folders = table.folders)
    (hempty : count = 0 → table.folders = [])
    (hlisted : count ≠ 0 → ∃ middle finish,
      Field.nat32.read encoding data pos = ⟨.ok table.ancestorLevel, middle⟩ ∧
      Folder.ListedBehind encoding data middle "" table.folders finish ∧ finish ≤ next) :
    Numbered encoding count data pos next table where
  length := Folder.length_preorderAll _
  mem folder := Folder.mem_preorderAll_iff
  empty hcount := by rw [allFolders, hempty hcount, Folder.preorderAll_nil]
  listed hcount := by
    obtain ⟨middle, finish, hread, ⟨-, trees, start, htrees, hlength, hfolders⟩, hle⟩ :=
      hlisted hcount
    exact ⟨middle, trees, start, finish, hread, htrees, hlength, hfolders, hle⟩
  zero := Folder.path?_zero _
  path number hpos hle := Folder.path?_of_le hplaced hpos hle
  beyond number hlt := Folder.path?_eq_none_iff.2 hlt
  resource ref index h := by rw [resolve?, h]
  file ref name h := resolve?_file h
  file_eq_none ref name h := by
    rw [resolve?_file h, Option.map_eq_none_iff]
    exact Folder.path?_eq_none_iff

/-- **Numbers of folders.**  In every table that is read, from whatever octets, the folders are
numbered in the order of their names, a number leads to the path of its folder and to no other,
and a reference is resolved to the file in this folder. -/
theorem numbered_of_read
    (h : read encoding version compressed count data pos = ⟨.ok table, next⟩) :
    Numbered encoding count data pos next table := by
  unfold read at h
  split at h
  · rename_i hcount
    cases h
    exact numbered_of_placed (by rw [empty, Folder.placeAll]) (fun _ => rfl)
      fun hne => absurd hcount hne
  · rename_i hcount
    split at h
    · cases h
    · cases hrun : (decoder version count).run encoding data pos () with
      | mk result finish s =>
      rw [hrun] at h
      cases h
      have hlisted := listed_of_run hrun
      obtain ⟨_, _, -, hbehind, -⟩ := id hlisted
      exact numbered_of_placed hbehind.1 (fun hzero => absurd hzero hcount) fun _ => hlisted

/-- A tree with a folder inside another and one next to it.  The octets stand behind another one. -/
theorem numbered_of_read_forest :
    let data : Octets := #[9, 1, 0, 0, 0, 2, 0, 0, 0,
      1, 0, 0, 0, 0x61, 1, 0, 0, 0, 1, 0, 0, 0, 0x62, 0, 0, 0, 0, 1, 0, 0, 0, 0x63, 0, 0, 0, 0,
      0, 0, 0, 0, 1, 0, 0, 0, 0x64, 7, 0, 0, 0, 3, 0, 0, 0, 8]
    let table : RefTable := ⟨1, [⟨"a", "a\\", [⟨"b", "a\\b\\", []⟩]⟩, ⟨"c", "c\\", []⟩],
      [⟨0, .file "d", 7, none, some 3, none⟩]⟩
    read .binary 3 false 1 data 1 = ⟨.ok table, 53⟩ ∧ Numbered .binary 1 data 1 53 table := by
  intro data table
  have hread : read .binary 3 false 1 data 1 = ⟨.ok table, 53⟩ := by
    simp only [data, table]
    rfl
  exact ⟨hread, numbered_of_read hread⟩

end RefTable
end GameBox
