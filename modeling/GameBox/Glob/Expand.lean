import GameBox.FileTree

/-!
# The paths that a pattern describes

A pattern is followed component by component from the folder at hand.  A component that is a plain
name is looked up; any other one is compared with the names in the folder, in alphabetical order.
Folders passed over by two asterisks are gone through depth first.

* `Glob.expand`: the paths of a tree that components describe, in the order in which they are
  found.
-/

namespace GameBox
namespace Glob

variable {α : Type} (tree : FileTree α)

/-- The folder at hand. -/
def here : String := "."

/-- The path of a name in a folder. -/
def join (folder name : String) : String :=
  if folder.endsWith "/" then folder ++ name else folder ++ "/" ++ name

/-- Whether a path says no more than that it stays in the folder at hand. -/
def isHere (path : String) : Bool :=
  match FileTree.componentsOf path with
  | first :: others => first = here && others.all fun name => name = "" || name = here
  | [] => false

/-- The path of a name in a folder; in the folder at hand it is the name alone. -/
def child (folder name : String) : String :=
  if isHere folder then name else join folder name

/-- A name and its path. -/
structure Item where
  name : String
  path : String

/-- What is in a folder. -/
def itemsOf (folder : String) : List Item :=
  (tree.children folder).map fun name => ⟨name, child folder name⟩

/-- Goes through a folder and all folders below it, down to `levels`; `visit` says what an item
leads to. -/
def below (visit : Item → List String) : (levels : Nat) → Item → List String
  | 0, _ => []
  | levels + 1, item =>
    visit item ++
      if tree.isFolder item.path then (itemsOf tree item.path).flatMap (below visit levels)
      else []

/-- The folders themselves among the names that a pattern with a leading dot may mean. -/
def dotNames : List Token → List String
  | .literal '.' :: tokens =>
    ["..", "."].filter fun name => isMatch (.literal '.' :: tokens) name.toList
  | _ => []

/-- The paths that components lead to from a folder; `final` says which paths may stand at the
end. -/
def follow (final : String → Bool) : List Component → (folder : String) → List String
  | [], _ => []
  | .anyDepth :: [], folder =>
    let visit (item : Item) : List String := if tree.isFolder item.path then [item.path] else []
    if tree.isFolder folder then
      (itemsOf tree folder).flatMap (below tree visit (tree.depth + 1))
    else []
  | .anyDepth :: component :: components, folder =>
    let visit (item : Item) : List String :=
      match component with
      | .anyDepth => []
      | .named tokens =>
        if isMatch tokens item.name.toList then
          if components.isEmpty then [item.path].filter final
          else follow final components item.path
        else []
    if tree.isFolder folder then
      (itemsOf tree folder).flatMap (below tree visit (tree.depth + 1))
    else []
  | .named tokens :: components, folder =>
    let onwards (path : String) : List String :=
      if components.isEmpty then [path].filter final else follow final components path
    match (Component.named tokens).literal? with
    | some name =>
      let path := child folder name
      let found :=
        if name = "." ∨ name = ".." then tree.isFolder folder else tree.contains path
      if found then onwards path else []
    | none =>
      if tree.isFolder folder then
        (dotNames tokens).flatMap (fun name => onwards (join folder name)) ++
          (itemsOf tree folder).flatMap fun item =>
            if isMatch tokens item.name.toList then onwards item.path else []
      else []

/-- The files and folders that a pattern describes. -/
def expand (pattern : String) : Except PatternError (List String) := do
  let text := pattern.toList
  let components ← components text
  if text.head? = some '/' then return []
  else
    let final (path : String) : Bool := text.getLast? ≠ some '/' || tree.isFolder path
    return follow tree final components here

end Glob
end GameBox
