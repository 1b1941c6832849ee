import GameBox.Reference.Folder

/-!
# The table of external references

A file that depends on others lists them: a reference names a file, in one of the folders of a
tree, or a resource of the game by its number.  The tree hangs below a folder some levels above
the file.

* `Reference`: a reference and its target.
* `RefTable`, `RefTable.read`: the table.
* `RefTable.resolve?`: the path of the file that a reference names.
-/

namespace GameBox

/-- What a reference names. -/
inductive RefTarget where
  | file (name : String)
  | resource (index : UInt32)
  deriving DecidableEq, Repr

/-- A reference to another file or to a resource. -/
structure Reference where
  flags : UInt32
  target : RefTarget
  nodeIndex : UInt32
  /-- From version five on. -/
  useFile : Option Bool
  /-- The number of the folder of a file. -/
  folderIndex : Option UInt32
  /-- What follows the number of a folder that is all ones. -/
  folderExtra : Option UInt64
  deriving DecidableEq, Repr

namespace Reference

/-- The flag of a reference to a resource. -/
def resourceFlag : UInt32 := 0x4

/-- The number of a folder that more follows. -/
def extendedFolder : UInt32 := 0xFFFFFFFF

/-- Reads what a reference with these flags names. -/
def targetDecoder (flags : UInt32) : Decoder Unit RefTarget := do
  if flags &&& resourceFlag ≠ 0 then
    let index ← Decoder.read .nat32
    pure (.resource index)
  else
    let name ← Decoder.read .string
    pure (.file name)

/-- Reads whether the file is to be used, which older versions do not say. -/
def useFileDecoder (version : UInt16) : Decoder Unit (Option Bool) := do
  if 5 ≤ version then
    let useFile ← Decoder.read .bool
    pure (some useFile)
  else pure none

/-- Reads the number of the folder of a file and what follows it; a resource has none. -/
def folderDecoder : RefTarget → Decoder Unit (Option UInt32 × Option UInt64)
  | .resource _ => pure (none, none)
  | .file _ => do
    let index ← Decoder.read .nat32
    if index = extendedFolder then
      let extra ← Decoder.read .nat64
      pure (some index, some extra)
    else pure (some index, none)

/-- Reads a reference. -/
def decoder (version : UInt16) : Decoder Unit Reference := do
  let flags ← Decoder.read .nat32
  let target ← targetDecoder flags
  let nodeIndex ← Decoder.read .nat32
  let useFile ← useFileDecoder version
  let (folderIndex, folderExtra) ← folderDecoder target
  pure { flags, target, nodeIndex, useFile, folderIndex, folderExtra }

/-- The JSON form of a reference. -/
def toJson (r : Reference) : Json :=
  let target : RefTarget → Json
    | .file name => .single "File" (.string name)
    | .resource index => .single "Resource" (.nat index.toNat)
  .object
    [("flags", .nat r.flags.toNat),
     ("target", target r.target),
     ("node_index", .nat r.nodeIndex.toNat),
     ("use_file", .option .bool r.useFile),
     ("folder_index", .option (fun n => .nat n.toNat) r.folderIndex),
     ("folder_extra", .option (fun n => .nat n.toNat) r.folderExtra)]

end Reference

/-- The table of external references. -/
structure RefTable where
  /-- How many levels above the file the folder is that holds the trees. -/
  ancestorLevel : UInt32 := 0
  folders : List Folder := []
  refs : List Reference := []
  deriving Inhabited

namespace RefTable

/-- The table of a file without references. -/
def empty : RefTable := {}

/-- Reads a table with a count of references. -/
def decoder (version : UInt16) (count : UInt32) : Decoder Unit RefTable := do
  let ancestorLevel ← Decoder.read .nat32
  let folders ← Folder.listDecoder Folder.maxDepth ""
  let refs ← (Reference.decoder version).times count.toNat
  pure { ancestorLevel, folders, refs }

/-- Reads the table of a file.  Without references there is nothing to read; a compressed table
is not read at all. -/
def read (encoding : Encoding) (version : UInt16) (compressed : Bool) (count : UInt32)
    (data : Octets) (pos : Nat) : Found DecodeError RefTable :=
  if count = 0 then ⟨.ok empty, pos⟩
  else if compressed then ⟨.error .compressedRefTable, pos⟩
  else
    let outcome := (decoder version count).run encoding data pos ()
    ⟨outcome.result, outcome.next⟩

/-- All folders in the order of their numbers. -/
def allFolders (table : RefTable) : List Folder := Folder.preorderAll table.folders

/-- The path of a folder by its number. -/
def folderPath? (table : RefTable) (number : UInt32) : Option String :=
  Folder.path? table.folders number

/-- The path of the file that a reference names, if its folder exists. -/
def resolve? (table : RefTable) (ref : Reference) : Option String :=
  match ref.target with
  | .resource _ => none
  | .file name => (table.folderPath? (ref.folderIndex.getD 0)).map (· ++ name)

/-- The JSON form of a table; the folders keep their nesting. -/
def toJson (table : RefTable) : Json :=
  .object
    [("ancestor_level", .nat table.ancestorLevel.toNat),
     ("folders", .array (Folder.toJsonAll table.folders)),
     ("refs", .array (table.refs.map Reference.toJson))]

end RefTable
end GameBox
