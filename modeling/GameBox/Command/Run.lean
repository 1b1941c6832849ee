import GameBox.Command.Arguments
import GameBox.Command.Report
import GameBox.Glob.Expand

/-!
# Running a command

A command is a function of its arguments, the environment and the files at hand.  Of the files it
is known only what can be asked of them: what is in the file that a path leads to, and which paths a
pattern leads to.

A request opens few files, and its answer depends on nothing else about the contents of files.  So
these files can be read before it is carried out.

* `FileSystem`, `FileTree.system`: what can be asked of the files at hand.
* `Program.refuse`: what is printed when nothing is done.
* `Program.answer`: carrying out a request.
* `Request.opens`, `Program.answer_found`: the files that are opened, which may be read before.
* `Program.run`: the whole program.
-/

namespace GameBox

/-! ## Files at hand -/

/-- What can be asked of the files at hand. -/
structure FileSystem where
  /-- The octets of the file that a path leads to, or why they cannot be had. -/
  contents : String → Except FileError Octets
  isFile : String → Bool
  /-- The paths that a pattern leads to, in the order in which they are found. -/
  expand : String → Except Glob.PatternError (List String)

/-- The files among the paths that a pattern leads to. -/
def FileSystem.files? (system : FileSystem) (pattern : String) :
    Except Glob.PatternError (List String) :=
  (system.expand pattern).map fun paths => paths.filter system.isFile

/-- The files of a tree, with contents that are given apart. -/
def FileTree.system {α : Type} (tree : FileTree α)
    (contents : String → Except FileError Octets) : FileSystem where
  contents := contents
  isFile := tree.isFile
  expand := Glob.expand tree

/-! ## Commands -/

namespace Program

/-- How the program is called. -/
def usage : List String :=
  ["Usage: gbx [OPTIONS] <COMMAND>",
   "",
   "Commands:",
   "  info     Show the header, decoded chunks, reference table and body sizes",
   "  chunks   List the header chunk directory",
   "  refs     Show the folder tree and external references",
   "  classes  List known class ids",
   "  scan     Decode every file matching a glob pattern"]

/-- The version of the program. -/
def version : String := "gbx 0.1.0"

/-- What is printed when nothing is done. -/
def refuse (refusal : Refusal) : Output :=
  match refusal with
  | .help => .success usage
  | .version => .success [version]
  | refusal => { code := 2, stderr := Text.lines (["error: " ++ refusal.message, ""] ++ usage) }

/-- What is printed for a text that is no pattern. -/
def refusePattern (error : Glob.PatternError) : Output :=
  .failure "Invalid glob pattern" [error.message]

/-- Carries out a request on the files at hand. -/
def answer (system : FileSystem) : Request → Output
  | .info file json => Report.info file json (system.contents file)
  | .chunks file => Report.chunks file (system.contents file)
  | .refs file => Report.refs file (system.contents file)
  | .classes category => Report.classes category
  | .scan pattern json =>
    match system.files? pattern with
    | .error error => refusePattern error
    | .ok paths => Report.survey json (paths.map fun path => (path, system.contents path))

/-- The program: arguments, the file that the environment names, and the files at hand. -/
def run (files : FileTree Octets) (environment : Option String) (arguments : List String) :
    Output :=
  match Request.ofArguments environment arguments with
  | .error refusal => refuse refusal
  | .ok request => answer (files.system files.open?) request

end Program

/-! ## Reading before answering -/

/-- The files that a request opens. -/
def Request.opens (system : FileSystem) : Request → List String
  | .info file _ | .chunks file | .refs file => [file]
  | .classes _ => []
  | .scan pattern _ =>
    match system.files? pattern with
    | .error _ => []
    | .ok paths => paths

namespace Program

variable {system : FileSystem} {contents : String → Except FileError Octets} {path : String}
variable {paths : List String} {request : Request}

/-- What was read from files, and no other contents. -/
def found (files : List (String × Except FileError Octets)) (path : String) :
    Except FileError Octets :=
  (files.lookup path).getD (.error .notFound)

theorem found_map (h : path ∈ paths) :
    found (paths.map fun path => (path, contents path)) path = contents path := by
  rw [found]
  induction paths with
  | nil => cases h
  | cons first paths ih =>
    rw [List.map_cons, List.lookup_cons]
    split
    · rename_i hfirst
      rw [eq_of_beq hfirst, Option.getD_some]
    · rename_i hfirst
      rcases List.mem_cons.1 h with rfl | h
      · rw [beq_self_eq_true] at hfirst
        cases hfirst
      · exact ih h

/-- The answer depends on the contents of the files that are opened, and of no others. -/
theorem answer_congr (h : ∀ path ∈ request.opens system, contents path = system.contents path) :
    answer { system with contents } request = answer system request := by
  cases request with
  | info file json | chunks file | refs file =>
    have hfile := h file List.mem_cons_self
    simp only [answer, hfile]
  | classes category => rfl
  | scan pattern json =>
    have hfiles : { system with contents }.files? pattern = system.files? pattern := rfl
    rw [answer, answer, hfiles]
    rw [Request.opens] at h
    split
    · rfl
    · rename_i paths hpaths
      rw [hpaths] at h
      exact congrArg _ (List.map_congr_left fun path hpath => congrArg _ (h path hpath))

/-- It makes no difference whether files are opened on the way or were read before. -/
theorem answer_found (system : FileSystem) (request : Request) :
    answer
      { system with
        contents := found ((request.opens system).map fun path => (path, system.contents path)) }
      request = answer system request :=
  answer_congr fun _ hpath => found_map hpath

end Program
end GameBox
