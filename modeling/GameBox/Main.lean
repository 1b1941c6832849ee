import GameBox.Command.Run

/-!
# The command line

The outer layer of the program: it finds the arguments, reads the files that a request needs, and
prints what the library answers.
-/

namespace GameBox
namespace Program

/-- Reads a file. -/
def readFile (name : String) : IO (Except FileError Octets) := do
  try
    if ← ((← IO.currentDir) / name).isDir then return .error .isDirectory
    let contents ← IO.FS.readBinFile name
    return .ok contents.data
  catch error =>
    match error with
    | .noFileOrDirectory .. => return .error .notFound
    | other => return .error (.other (toString other))

/-- The names of the files below a folder, relative to the current one, at most as many levels
down as given. -/
def namesBelow : (levels : Nat) → (folder : String) → IO (List String)
  | 0, _ => return []
  | levels + 1, folder => do
    let mut names := []
    for entry in ← ((← IO.currentDir) / folder).readDir do
      let name := if folder.isEmpty then entry.fileName else folder ++ "/" ++ entry.fileName
      if ← entry.path.isDir then names := names ++ (← namesBelow levels name)
      else names := names ++ [name]
    return names

/-- The most levels of folders that a survey goes down. -/
def maxLevels : Nat := 64

/-- Carries out a request on the files below the current folder.  The files that it opens are read
before, which makes no difference to the answer (`answer_found`). -/
def perform (request : Request) : IO Output := do
  let names ←
    match request with
    | .scan .. => namesBelow maxLevels ""
    | _ => pure []
  let tree : FileTree Unit := .ofList (names.map fun name => (name, ()))
  let opened := request.opens (tree.system (found []))
  let files ← opened.mapM fun path => return (path, ← readFile path)
  return answer (tree.system (found files)) request

end Program
end GameBox

/-- Runs the program on the arguments of the command line. -/
def main (arguments : List String) : IO UInt32 := do
  let environment ← IO.getEnv "GBX_FILE"
  let output ←
    match GameBox.Request.ofArguments environment arguments with
    | .error refusal => pure (GameBox.Program.refuse refusal)
    | .ok request => GameBox.Program.perform request
  (← IO.getStdout).putStr output.stdout
  (← IO.getStderr).putStr output.stderr
  return output.code
