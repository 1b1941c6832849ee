import GameBox.Reference.Write

/-!
# Folders in the order of a file

A file lists folders without marks: the name of each folder, and behind it the count of the list
inside it, which follows at once.  Read without looking at the counts, this is one long list of
names, and the numbers of folders are the places in it.

* `Folder.sizeAll`: how many folders there are, at all depths.
* `Folder.Listed`: names that stand in a buffer one behind the other, each with its count.
* `RefTable.Numbered`: what the numbers stand for in a table that was read.
-/

namespace GameBox
namespace Folder

mutual

/-- The number of folders that a folder and those inside it are. -/
def size : Folder → Nat
  | ⟨_, _, children⟩ => sizeAll children + 1

/-- The number of folders in a list of trees, at all depths. -/
def sizeAll : List Folder → Nat
  | [] => 0
  | folder :: folders => size folder + sizeAll folders

end

/-- The names of the folders stand in a buffer one behind the other, from one position to another.
Nothing is between them but the count of the folders that are directly inside each. -/
inductive Listed (encoding : Encoding) (data : Octets) : Nat → List Folder → Nat → Prop
  | nil (pos : Nat) : Listed encoding data pos [] pos
  | cons {pos middle next finish : Nat} {folder : Folder} {folders : List Folder} {count : UInt32}
    (hname : Field.string.read encoding data pos = ⟨.ok folder.name, middle⟩)
    (hcount : Field.nat32.read encoding data middle = ⟨.ok count, next⟩)
    (hlength : folder.children.length = count.toNat)
    (hlisted : Listed encoding data next folders finish) :
    Listed encoding data pos (folder :: folders) finish

end Folder

namespace RefTable

/-- What the numbers of folders stand for in a table that was read between two positions of a
buffer. -/
structure Numbered (encoding : Encoding) (count : UInt32) (data : Octets) (pos next : Nat)
    (table : RefTable) : Prop where
  /-- Every folder has a number, at whatever depth it is. -/
  length : table.allFolders.length = Folder.sizeAll table.folders
  /-- The folders that have a number are those that are reached from a root. -/
  mem : ∀ folder, folder ∈ table.allFolders ↔ ∃ names, Folder.Trail table.folders names folder
  /-- A table without references has no folders. -/
  empty : count = 0 → table.allFolders = []
  /-- The order of the numbers is that of the names in the buffer, which begin behind the level of
  the ancestor and the count of the trees. -/
  listed : count ≠ 0 → ∃ middle trees start finish,
    Field.nat32.read encoding data pos = ⟨.ok table.ancestorLevel, middle⟩ ∧
    Field.nat32.read encoding data middle = ⟨.ok trees, start⟩ ∧
    table.folders.length = trees.toNat ∧
    Folder.Listed encoding data start table.allFolders finish ∧ finish ≤ next
  /-- The number zero is no folder; it stands for the place that holds the trees. -/
  zero : table.folderPath? 0 = some ""
  /-- The path of a folder is made of the names from a root down to it. -/
  path : ∀ number : UInt32, 0 < number → number.toNat ≤ Folder.sizeAll table.folders →
    ∃ folder, table.allFolders[number.toNat - 1]? = some folder ∧
      (∃ names, Folder.Trail table.folders names folder) ∧
      ∀ names, Folder.Trail table.folders names folder →
        table.folderPath? number = some (Folder.pathOf names)
  beyond : ∀ number : UInt32, Folder.sizeAll table.folders < number.toNat →
    table.folderPath? number = none
  resource : ∀ ref index, ref.target = .resource index → table.resolve? ref = none
  /-- A file is looked for in its folder; without a folder, in the place that holds the trees. -/
  file : ∀ ref name, ref.target = .file name →
    table.resolve? ref = (table.folderPath? (ref.folderIndex.getD 0)).map (· ++ name)
  file_eq_none : ∀ ref name, ref.target = .file name →
    (table.resolve? ref = none ↔
      Folder.sizeAll table.folders < (ref.folderIndex.getD 0).toNat)

end RefTable
end GameBox
