import GameBox.Decoder
import GameBox.Json

/-!
# Folder trees

A file lists the folders of the files it refers to as a tree, each list of folders behind its
count.  The path of a folder is made of the names from the root down to it, with a backslash
behind each.  Folders are numbered from one, in the order in which they stand in the file: a
folder comes before its children, and those before its next sibling.

* `Folder`, `Folder.preorderAll`: trees, and their folders in the order of their numbers.
* `Folder.path?`: the path of a folder by its number.
* `Folder.listDecoder`: reading a list of folders, nested to a given depth.
-/

namespace GameBox

/-- A folder and the folders inside it. -/
structure Folder where
  name : String
  /-- The names from the root down to this folder, with a backslash behind each. -/
  path : String
  children : List Folder
  deriving Inhabited

namespace Folder

/-- The least count that a list of folders must not have. -/
def limit : UInt32 := 50000

/-- The deepest nesting of folders. -/
def maxDepth : Nat := 64

/-- The path of a folder inside a folder with a path. -/
def extendPath (parent name : String) : String := parent ++ name ++ "\\"

mutual

/-- A folder and all folders inside it. -/
def preorder : Folder → List Folder
  | ⟨name, path, children⟩ => ⟨name, path, children⟩ :: preorderAll children

/-- All folders of a list of trees. -/
def preorderAll : List Folder → List Folder
  | [] => []
  | folder :: folders => preorder folder ++ preorderAll folders

end

/-- The path of a folder by its number; zero stands for the place that holds the trees. -/
def path? (folders : List Folder) (number : UInt32) : Option String :=
  if number = 0 then some ""
  else (preorderAll folders)[number.toNat - 1]?.map Folder.path

/-- Reads the count of a list of folders. -/
def countDecoder : Decoder Unit UInt32 := do
  let count ← Decoder.read .nat32
  if limit ≤ count then Decoder.exceeded .folderCount count.toNat limit.toNat
  else pure count

/-- Reads a list of folders inside a folder with a path.  A list that is not empty needs one of
the `levels` that are left. -/
def listDecoder : (levels : Nat) → (parent : String) → Decoder Unit (List Folder)
  | 0, _ => do
    let count ← countDecoder
    if 0 < count then .fail (.folderTooDeep maxDepth) else pure []
  | levels + 1, parent => do
    let count ← countDecoder
    Decoder.times (folderDecoder (listDecoder levels) parent) count.toNat
where
  /-- Reads a folder: its name, and the list of those inside it. -/
  folderDecoder (inside : (parent : String) → Decoder Unit (List Folder)) (parent : String) :
      Decoder Unit Folder := do
    let name ← Decoder.read .string
    let path := extendPath parent name
    let children ← inside path
    pure ⟨name, path, children⟩

/-! ## Written forms -/

mutual

/-- The names of folders on lines of their own, indented by two spaces for each level. -/
def lines (level : Nat) : Folder → List String
  | ⟨name, _, children⟩ =>
    (String.ofList (List.replicate (2 * level) ' ') ++ name ++ "\\") ::
      linesAll (level + 1) children

/-- The names of a list of folders, each in front of those inside it. -/
def linesAll (level : Nat) : List Folder → List String
  | [] => []
  | folder :: folders => lines level folder ++ linesAll level folders

end

mutual

/-- The JSON form of a folder and of those inside it. -/
def toJson : Folder → Json
  | ⟨name, path, children⟩ =>
    .object
      [("name", .string name), ("path", .string path), ("children", .array (toJsonAll children))]

/-- The JSON forms of a list of folders. -/
def toJsonAll : List Folder → List Json
  | [] => []
  | folder :: folders => toJson folder :: toJsonAll folders

end

@[simp] theorem preorderAll_nil : preorderAll [] = [] := by simp only [preorderAll]

@[simp] theorem preorderAll_cons (folder : Folder) (folders : List Folder) :
    preorderAll (folder :: folders) = preorder folder ++ preorderAll folders := by
  rw [preorderAll]

@[simp] theorem path?_zero (folders : List Folder) : path? folders 0 = some "" := rfl

end Folder
end GameBox
