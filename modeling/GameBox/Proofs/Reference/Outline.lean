import GameBox.Proofs.Reference.Numbering
import GameBox.Reference.Outline

/-!
# Printed trees show where every folder is

The lines of some trees are those of the folders in the order of their numbers
(`Folder.map_name_outlineAll`), and so the number of a folder is the place of its line.

Which folder is around it is told by the indentation alone.  The reader goes back over the lines of
whole trees that stand beside the folder, and none of them is less indented than the folder is
(`Folder.above_append`).  So what he stops at depends on the lines before the list that the folder
stands in, and this is the invariant: from a line of this list he comes to the path that the list
was given when it was read.  It passes into the list inside a folder with one more name, and over a
tree without a change (`Folder.pathsBehind_outlineAll`).
-/

namespace GameBox
namespace Folder

variable {folders : List Folder} {lines before : List Line} {level indent : Nat} {parent : String}

/-! ## Lines and folders -/

mutual

theorem map_text_outline (level : Nat) :
    (folder : Folder) → (outline level folder).map Line.text = Folder.lines level folder
  | ⟨name, _, children⟩ => by
    rw [outline, Folder.lines, List.map_cons, map_text_outlineAll (level + 1) children]
    rfl

/-- What is printed are the texts of the lines. -/
theorem map_text_outlineAll (level : Nat) :
    (folders : List Folder) → (outlineAll level folders).map Line.text = linesAll level folders
  | [] => by rw [outlineAll, linesAll, List.map_nil]
  | folder :: folders => by
    rw [outlineAll, linesAll, List.map_append, map_text_outline level folder,
      map_text_outlineAll level folders]

end

mutual

theorem map_name_outline (level : Nat) :
    (folder : Folder) → (outline level folder).map Line.name = (preorder folder).map name
  | ⟨name, _, children⟩ => by
    rw [outline, preorder, List.map_cons, List.map_cons, map_name_outlineAll (level + 1) children]

/-- The lines show the names of the folders in the order of their numbers. -/
theorem map_name_outlineAll (level : Nat) :
    (folders : List Folder) →
      (outlineAll level folders).map Line.name = (preorderAll folders).map name
  | [] => by rw [outlineAll, preorderAll, List.map_nil, List.map_nil]
  | folder :: folders => by
    rw [outlineAll, preorderAll, List.map_append, List.map_append, map_name_outline level folder,
      map_name_outlineAll level folders]

end

mutual

theorem le_indent_of_mem_outline {line : Line} (level : Nat) :
    (folder : Folder) → line ∈ outline level folder → 2 * level ≤ line.indent
  | ⟨name, _, children⟩, h => by
    rw [outline, List.mem_cons] at h
    rcases h with rfl | h
    · exact Nat.le_refl _
    · have hle := le_indent_of_mem_outlineAll (level + 1) children h
      omega

/-- No line of some trees is less indented than the first one. -/
theorem le_indent_of_mem_outlineAll {line : Line} (level : Nat) :
    (folders : List Folder) → line ∈ outlineAll level folders → 2 * level ≤ line.indent
  | [], h => by simp [outlineAll] at h
  | folder :: folders, h => by
    rw [outlineAll, List.mem_append] at h
    rcases h with h | h
    · exact le_indent_of_mem_outline level folder h
    · exact le_indent_of_mem_outlineAll level folders h

end

/-! ## Going back -/

/-- Lines that are not less indented are passed over. -/
theorem above_append (h : ∀ line ∈ lines, indent ≤ line.indent) (before : List Line) :
    above indent (lines ++ before) = above indent before := by
  induction lines with
  | nil => rfl
  | cons line lines ih =>
    rw [List.forall_mem_cons] at h
    rw [List.cons_append, above, if_neg (Nat.not_lt.2 h.1), ih h.2]

/-- A folder is just above the folders inside it. -/
theorem above_cons_self (level : Nat) (name : String) (before : List Line) :
    above (2 * (level + 1)) (⟨2 * level, name⟩ :: before) =
      ⟨2 * level, name⟩ :: above (2 * level) before := by
  have hlt : 2 * level < 2 * (level + 1) := by omega
  rw [above, if_pos hlt]

theorem pathOf_concat (names : List String) (name : String) :
    pathOf (names ++ [name]) = extendPath (pathOf names) name := by
  induction names with
  | nil => simp [pathOf, extendPath]
  | cons first names ih =>
    rw [List.cons_append, pathOf, ih, pathOf]
    simp only [extendPath, String.append_assoc]

/-- The path of a line is that of the lines above it, and its name. -/
theorem pathBehind_eq (before : List Line) (line : Line) :
    pathBehind before line =
      extendPath (pathOf ((above line.indent before).reverse.map Line.name)) line.name := by
  rw [pathBehind, List.reverse_cons, List.map_append, List.map_singleton, pathOf_concat]

/-- The paths of lines one behind the other, with the lines before them listed backwards. -/
def pathsBehind (before : List Line) : List Line → List String
  | [] => []
  | line :: lines => pathBehind before line :: pathsBehind (line :: before) lines

theorem pathsBehind_append (before lines lines' : List Line) :
    pathsBehind before (lines ++ lines') =
      pathsBehind before lines ++ pathsBehind (lines.reverse ++ before) lines' := by
  induction lines generalizing before with
  | nil => rfl
  | cons line lines ih =>
    rw [List.cons_append, pathsBehind, pathsBehind, ih, List.reverse_cons, List.append_assoc,
      List.singleton_append, List.cons_append]

/-- The path of the line at a place depends on the lines in front of this place only. -/
theorem getElem?_pathsBehind (before lines : List Line) (place : Nat) :
    (pathsBehind before lines)[place]? =
      lines[place]?.map (pathBehind ((lines.take place).reverse ++ before)) := by
  induction lines generalizing before place with
  | nil => rfl
  | cons line lines ih =>
    cases place with
    | zero => rfl
    | succ place =>
      rw [pathsBehind, List.getElem?_cons_succ, List.getElem?_cons_succ, ih, List.take_succ_cons,
        List.reverse_cons, List.append_assoc, List.singleton_append]

/-! ## Paths -/

mutual

theorem pathsBehind_outline (level : Nat) (before : List Line) :
    (folder : Folder) →
      place (pathOf ((above (2 * level) before).reverse.map Line.name)) folder = folder →
      pathsBehind before (outline level folder) = (preorder folder).map path
  | ⟨name, path, children⟩, hplaced => by
    rw [place, Folder.mk.injEq] at hplaced
    obtain ⟨-, rfl, hchildren⟩ := hplaced
    rw [outline, preorder, pathsBehind, List.map_cons, pathBehind_eq]
    congr 1
    refine pathsBehind_outlineAll (level + 1) _ children ?_
    rw [above_cons_self, List.reverse_cons, List.map_append, List.map_singleton, pathOf_concat,
      hchildren]

/-- If folders have the paths that their names give inside the lines before, then these are the
paths that a reader makes of their lines. -/
theorem pathsBehind_outlineAll (level : Nat) (before : List Line) :
    (folders : List Folder) →
      placeAll (pathOf ((above (2 * level) before).reverse.map Line.name)) folders = folders →
      pathsBehind before (outlineAll level folders) = (preorderAll folders).map path
  | [], _ => by rw [outlineAll, pathsBehind, preorderAll, List.map_nil]
  | folder :: folders, hplaced => by
    rw [placeAll, List.cons.injEq] at hplaced
    have hpassed : above (2 * level) ((outline level folder).reverse ++ before) =
        above (2 * level) before :=
      above_append (fun line hmem =>
        le_indent_of_mem_outline level folder (List.mem_reverse.1 hmem)) before
    rw [outlineAll, preorderAll, pathsBehind_append, List.map_append,
      pathsBehind_outline level before folder hplaced.1,
      pathsBehind_outlineAll level _ folders (by rw [hpassed]; exact hplaced.2)]

end

/-- A reader finds the path of a folder by its number, if the paths of the folders fit their
names. -/
theorem pathAt?_outlineAll (hplaced : placeAll "" folders = folders) (level place : Nat) :
    pathAt? (outlineAll level folders) place = (preorderAll folders)[place]?.map path := by
  have hpaths := pathsBehind_outlineAll level [] folders hplaced
  rw [pathAt?, ← List.append_nil (List.take place _).reverse, ← getElem?_pathsBehind, hpaths,
    List.getElem?_map]

end Folder

namespace RefTable

variable {encoding : Encoding} {version : UInt16} {compressed : Bool} {count : UInt32}
variable {data : Octets} {pos next : Nat} {table : RefTable}

/-- In a table that was read the paths of the folders fit their names. -/
theorem placed_of_read
    (h : read encoding version compressed count data pos = ⟨.ok table, next⟩) :
    Folder.placeAll "" table.folders = table.folders := by
  rcases run_of_read h with ⟨rfl, -⟩ | ⟨s, hrun⟩
  · rw [empty, Folder.placeAll]
  · obtain ⟨_, _, -, hbehind, -⟩ := listed_of_run hrun
    exact hbehind.1

/-- **Printed trees.**  There is a line for every folder of a table, in the order of their numbers,
and it shows the name of the folder.  If the table was read, the lines alone tell where a folder is:
a reader who goes back from its line comes to the path that its number leads to. -/
theorem outline_shows_folders (table : RefTable) :
    Folder.linesAll 1 table.folders = (Folder.outlineAll 1 table.folders).map Folder.Line.text ∧
    (Folder.outlineAll 1 table.folders).map Folder.Line.name =
      table.allFolders.map Folder.name ∧
    (∀ number : UInt32, 0 < number →
      table.folderPath? number = table.allFolders[number.toNat - 1]?.map Folder.path) ∧
    ∀ (encoding : Encoding) (version : UInt16) (compressed : Bool) (count : UInt32)
      (data : Octets) (pos next : Nat),
      read encoding version compressed count data pos = ⟨.ok table, next⟩ →
      ∀ number : UInt32, 0 < number →
        Folder.pathAt? (Folder.outlineAll 1 table.folders) (number.toNat - 1) =
          table.folderPath? number := by
  refine ⟨(Folder.map_text_outlineAll 1 _).symm, Folder.map_name_outlineAll 1 _,
    fun number hpos => Folder.path?_of_pos hpos _,
    fun encoding version compressed count data pos next hread number hpos => ?_⟩
  rw [folderPath?, Folder.path?_of_pos hpos]
  exact Folder.pathAt?_outlineAll (placed_of_read hread) 1 _

/-- A folder inside another, one next to it, and one that has the name of the first; the second and
the last of them are inside different folders. -/
theorem outline_shows_folders_forest :
    let data : Octets := #[9, 1, 0, 0, 0, 2, 0, 0, 0,
      1, 0, 0, 0, 0x61, 1, 0, 0, 0, 1, 0, 0, 0, 0x62, 0, 0, 0, 0,
      1, 0, 0, 0, 0x63, 1, 0, 0, 0, 1, 0, 0, 0, 0x61, 0, 0, 0, 0,
      0, 0, 0, 0, 1, 0, 0, 0, 0x64, 7, 0, 0, 0, 4, 0, 0, 0, 8]
    let table : RefTable := ⟨1, [⟨"a", "a\\", [⟨"b", "a\\b\\", []⟩]⟩,
      ⟨"c", "c\\", [⟨"a", "c\\a\\", []⟩]⟩], [⟨0, .file "d", 7, none, some 4, none⟩]⟩
    let lines : List Folder.Line := [⟨2, "a"⟩, ⟨4, "b"⟩, ⟨2, "c"⟩, ⟨4, "a"⟩]
    read .binary 3 false 1 data 1 = ⟨.ok table, 62⟩ ∧
      Folder.outlineAll 1 table.folders = lines ∧
      Folder.linesAll 1 table.folders = ["  a\\", "    b\\", "  c\\", "    a\\"] ∧
      Folder.pathAt? lines 1 = table.folderPath? 2 ∧ Folder.pathAt? lines 3 = some "c\\a\\" := by
  intro data table lines
  have hread : read .binary 3 false 1 data 1 = ⟨.ok table, 62⟩ := by
    simp only [data, table]
    rfl
  obtain ⟨hlines, -, -, hpaths⟩ := outline_shows_folders table
  have hpath := hpaths .binary 3 false 1 data 1 62 hread
  refine ⟨hread, rfl, hlines.trans (by decide), hpath 2 (by decide), ?_⟩
  exact (hpath 4 (by decide)).trans rfl

end RefTable
end GameBox
