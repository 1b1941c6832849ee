import GameBox.Reference.Write

/-!
# Printed trees as a reader sees them

Trees of folders are printed with one name on each line, and the spaces before a name say how deep
its folder is.  Nothing else says which folder is inside which.  To find out where a folder is, a
reader goes back from its line: the nearest line before it that is less indented is that of the
folder around it, and from there he goes on until no line is less indented.

* `Folder.Line`, `Folder.outlineAll`: the lines of trees.
* `Folder.above`: the lines that a reader stops at on his way back.
* `Folder.pathAt?`: the path that the names on these lines make.
-/

namespace GameBox
namespace Folder

/-- A line of printed trees: a name, and the number of spaces before it. -/
structure Line where
  indent : Nat
  name : String
  deriving DecidableEq, Repr

/-- The text of a line, in which a backslash ends the name. -/
def Line.text (line : Line) : String :=
  String.ofList (List.replicate line.indent ' ') ++ line.name ++ "\\"

mutual

/-- The line of a folder, and those of the folders inside it. -/
def outline (level : Nat) : Folder → List Line
  | ⟨name, _, children⟩ => ⟨2 * level, name⟩ :: outlineAll (level + 1) children

/-- The lines of a list of trees. -/
def outlineAll (level : Nat) : List Folder → List Line
  | [] => []
  | folder :: folders => outline level folder ++ outlineAll level folders

end

/-- The lines that a reader stops at on his way back from a line with an indentation: each is the
next one that is less indented than the last.  The lines before are listed backwards. -/
def above (indent : Nat) : (before : List Line) → List Line
  | [] => []
  | line :: before =>
    if line.indent < indent then line :: above line.indent before else above indent before

/-- The path that a reader makes of a line: its name behind those on the lines above it, the
outermost first. -/
def pathBehind (before : List Line) (line : Line) : String :=
  pathOf ((line :: above line.indent before).reverse.map Line.name)

/-- The path that a reader makes of the line at a place, counted from zero. -/
def pathAt? (lines : List Line) (place : Nat) : Option String :=
  lines[place]?.map (pathBehind (lines.take place).reverse)

end Folder
end GameBox
