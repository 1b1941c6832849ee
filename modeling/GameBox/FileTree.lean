import GameBox.Error
import GameBox.Glob.Pattern
import GameBox.Text.Utf8

/-!
# Trees of files

The files below a folder, by their names relative to it, with what is known about each of them.
A path is walked from that folder; what lies outside of it is not known, except that it is a
folder.

* `FileTree`, `FileTree.node?`: a tree, and what a path leads to.
* `FileTree.children`: the names inside a folder, in alphabetical order.
-/

namespace GameBox

/-- Files by the components of their names. -/
structure FileTree (α : Type) where
  files : List (List String × α)

namespace FileTree

variable {α : Type}

/-- What a path leads to. -/
inductive Node (α : Type) where
  | file (contents : α)
  | folder

/-- A place on the way of a path: below the starting folder, or outside. -/
inductive Place where
  | inside (components : List String)
  | outside
  deriving DecidableEq

/-- The components of a path. -/
def componentsOf (path : String) : List String :=
  (Glob.splitSlash path.toList).map String.ofList

/-- The longest component of a path, in octets. -/
def maxComponent : Nat := 255

/-- The octets that a path may take, together with the zero behind it. -/
def maxPath : Nat := 4096

/-- What stands at a place. -/
def at? (tree : FileTree α) : Place → Option (Node α)
  | .outside => some .folder
  | .inside [] => some .folder
  | .inside components =>
    match tree.files.find? fun file => file.1 = components with
    | some (_, contents) => some (.file contents)
    | none =>
      if tree.files.any fun file => components.isPrefixOf file.1 then some .folder else none

/-- The place that a component leads to from a folder. -/
def Place.next : Place → String → Place
  | outside, _ => outside
  | inside components, name =>
    if name = "" ∨ name = "." then inside components
    else if name = ".." then
      match components with
      | [] => outside
      | components => inside components.dropLast
    else inside (components ++ [name])

/-- The place that a path leads to. -/
def placeOf (path : String) : Place :=
  match componentsOf path with
  | "" :: _ => .outside
  | names => names.foldl Place.next (.inside [])

/-- A tree of files with their names. -/
def ofList (files : List (String × α)) : FileTree α :=
  ⟨files.filterMap fun (name, contents) =>
    match placeOf name with
    | .inside components => some (components, contents)
    | .outside => none⟩

/-- Walks along components from a place. -/
def walk? (tree : FileTree α) : Place → List String → Except FileError (Node α)
  | place, [] =>
    match tree.at? place with
    | some node => .ok node
    | none => .error .notFound
  | place, name :: names =>
    match tree.at? place with
    | none => .error .notFound
    | some (.file _) => .error .notDirectory
    | some .folder =>
      if maxComponent < (Utf8.encode name).length then .error .nameTooLong
      else if place = .outside ∧ name ∉ ["", ".", ".."] then .error .notFound
      else walk? tree (place.next name) names

/-- What a path leads to, or why it leads nowhere. -/
def node? (tree : FileTree α) (path : String) : Except FileError (Node α) :=
  if maxPath ≤ (Utf8.encode path).length then .error .nameTooLong
  else
    match componentsOf path with
    | [""] => .error .notFound
    | "" :: names => tree.walk? .outside names
    | names => tree.walk? (.inside []) names

/-- The contents of the file that a path leads to. -/
def open? (tree : FileTree α) (path : String) : Except FileError α :=
  match tree.node? path with
  | .ok (.file contents) => .ok contents
  | .ok .folder => .error .isDirectory
  | .error error => .error error

/-- Whether there is a folder at a path. -/
def isFolder (tree : FileTree α) (path : String) : Bool :=
  match tree.node? path with
  | .ok .folder => true
  | _ => false

/-- Whether there is a file at a path. -/
def isFile (tree : FileTree α) (path : String) : Bool :=
  match tree.node? path with
  | .ok (.file _) => true
  | _ => false

/-- Whether a path leads anywhere. -/
def contains (tree : FileTree α) (path : String) : Bool := (tree.node? path).isOk

/-- The names inside a folder, each once, in the order of their octets. -/
def children (tree : FileTree α) (path : String) : List String :=
  match placeOf path with
  | .outside => []
  | .inside components =>
    let names := tree.files.filterMap fun (name, _) =>
      if components.isPrefixOf name then (name.drop components.length).head? else none
    names.eraseDups.mergeSort fun a b => a ≤ b

/-- The depth of the deepest file. -/
def depth (tree : FileTree α) : Nat :=
  tree.files.foldl (fun n file => max n file.1.length) 0

end FileTree
end GameBox
