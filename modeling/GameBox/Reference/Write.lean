import GameBox.Field.Write
import GameBox.Reference.Table

/-!
# Writing reference tables

A reference table is written as it is read: the level of the ancestor, the folders with each list
behind its count, and the references.  The paths of folders are not written; they follow from the
names.

* `Folder.writeList`, `Reference.write`, `RefTable.write`: the octets of a table and its parts.
* `Folder.placeAll`: folders with the paths that their names give.
* `Folder.Trail`, `Folder.pathOf`: the names from the root down to a folder, and the path they make.
* `Folder.depthAll`: how deeply folders are nested.
-/

namespace GameBox
namespace Folder

mutual

/-- A folder with the path that its name gives inside a folder with a path. -/
def place (parent : String) : Folder → Folder
  | ⟨name, _, children⟩ =>
    ⟨name, extendPath parent name, placeAll (extendPath parent name) children⟩

/-- Folders with the paths that their names give. -/
def placeAll (parent : String) : List Folder → List Folder
  | [] => []
  | folder :: folders => place parent folder :: placeAll parent folders

end

/-- The names of the folders from the root down to a folder among the trees. -/
inductive Trail : List Folder → List String → Folder → Prop
  | root {folders : List Folder} {folder : Folder} (h : folder ∈ folders) :
    Trail folders [folder.name] folder
  | inside {folders : List Folder} {parent folder : Folder} {names : List String}
    (h : parent ∈ folders) (hinside : Trail parent.children names folder) :
    Trail folders (parent.name :: names) folder

/-- The path that names make: the names one behind the other, a backslash behind each. -/
def pathOf : List String → String
  | [] => ""
  | name :: names => name ++ "\\" ++ pathOf names

mutual

/-- The levels of a folder and those inside it. -/
def depth : Folder → Nat
  | ⟨_, _, children⟩ => depthAll children + 1

/-- The levels of a list of folders. -/
def depthAll : List Folder → Nat
  | [] => 0
  | folder :: folders => max (depth folder) (depthAll folders)

end

/-- The count of a list of folders. -/
def writeCount (encoding : Encoding) (folders : List Folder) : List UInt8 :=
  Field.write encoding .nat32 (UInt32.ofNat folders.length)

mutual

/-- A folder: its name, and the list of those inside it. -/
def write (encoding : Encoding) : Folder → List UInt8
  | ⟨name, _, children⟩ =>
    Field.write encoding .string name ++ writeCount encoding children ++
      writeEach encoding children

/-- Folders one after the other. -/
def writeEach (encoding : Encoding) : List Folder → List UInt8
  | [] => []
  | folder :: folders => write encoding folder ++ writeEach encoding folders

end

/-- A list of folders behind its count. -/
def writeList (encoding : Encoding) (folders : List Folder) : List UInt8 :=
  writeCount encoding folders ++ writeEach encoding folders

mutual

/-- Whether an encoding has room for a folder: every name fits, and no list is too long. -/
def Fits (encoding : Encoding) : Folder → Prop
  | ⟨name, _, children⟩ =>
    Field.Fits encoding .string name ∧ children.length < limit.toNat ∧ FitsEach encoding children

/-- Whether an encoding has room for each of a list of folders. -/
def FitsEach (encoding : Encoding) : List Folder → Prop
  | [] => True
  | folder :: folders => Fits encoding folder ∧ FitsEach encoding folders

end

end Folder

namespace Reference

/-- What a reference names. -/
def writeTarget (encoding : Encoding) : RefTarget → List UInt8
  | .file name => Field.write encoding .string name
  | .resource index => Field.write encoding .nat32 index

/-- A field that may be missing. -/
def writeOption (encoding : Encoding) (field : Field) (value : Option field.Value) :
    List UInt8 :=
  (value.map (Field.write encoding field)).getD []

/-- A reference. -/
def write (encoding : Encoding) (r : Reference) : List UInt8 :=
  Field.write encoding .nat32 r.flags ++ writeTarget encoding r.target ++
    Field.write encoding .nat32 r.nodeIndex ++ writeOption encoding .bool r.useFile ++
    writeOption encoding .nat32 r.folderIndex ++ writeOption encoding .nat64 r.folderExtra

/-- The references that a version can have: the flags tell files from resources, only files have
a folder, and more follows only a folder number that is all ones. -/
def IsValid (version : UInt16) (r : Reference) : Prop :=
  (r.useFile.isSome ↔ 5 ≤ version) ∧
    (r.folderExtra.isSome ↔ r.folderIndex = some extendedFolder) ∧
    match r.target with
    | .file _ => r.flags &&& resourceFlag = 0 ∧ r.folderIndex.isSome
    | .resource _ => r.flags &&& resourceFlag ≠ 0 ∧ r.folderIndex = none

/-- Whether an encoding has room for a reference. -/
def Fits (encoding : Encoding) (r : Reference) : Prop :=
  match r.target with
  | .file name => Field.Fits encoding .string name
  | .resource _ => True

end Reference

namespace RefTable

/-- A table with its references. -/
def write (encoding : Encoding) (table : RefTable) : List UInt8 :=
  Field.write encoding .nat32 table.ancestorLevel ++ Folder.writeList encoding table.folders ++
    table.refs.flatMap (Reference.write encoding)

/-- Whether a file of a version has room for a table.  It has no place for an empty one. -/
structure Fits (encoding : Encoding) (version : UInt16) (table : RefTable) : Prop where
  folders : table.folders.length < Folder.limit.toNat
  eachFolder : Folder.FitsEach encoding table.folders
  refs : 0 < table.refs.length ∧ table.refs.length < UInt32.size
  eachRef : ∀ r ∈ table.refs, r.IsValid version ∧ r.Fits encoding

end RefTable
end GameBox
