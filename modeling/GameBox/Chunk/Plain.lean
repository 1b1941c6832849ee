import GameBox.Chunk.Layout
import GameBox.Chunk.Row

/-!
# Chunks that say little

* `VersionOnly`: a version and nothing else.
* `Undecoded`: a version, and octets whose meaning is not known.
* `FolderDependencies`: the folders that a file depends on.
-/

namespace GameBox

/-- A chunk that holds a version only. -/
structure VersionOnly where
  version : Option UInt32 := none
  deriving DecidableEq, Repr

namespace VersionOnly

/-- The version is all there is. -/
def layout : Layout VersionOnly :=
  .plain [.field .nat32 fun v r => { r with version := some v }]

/-- What is shown of a version. -/
def rows (r : VersionOnly) : List Row := Row.list [("Version", r.version.map showNat32)]

/-- The JSON form of a version. -/
def toJson (r : VersionOnly) : Json := .object [("version", .option jsonNat32 r.version)]

end VersionOnly

/-- A chunk that is not decoded behind its version. -/
structure Undecoded where
  version : Option UInt32 := none
  data : List UInt8 := []
  deriving DecidableEq, Repr

namespace Undecoded

/-- Reads the version and keeps all that is left. -/
def decoder : Decoder (Draft Undecoded) Unit := do
  let version ← Decoder.read .nat32
  Decoder.store fun r => { r with version := some version }
  let data ← .rest .done
  Decoder.store fun r => { r with data }

/-- The version, and how many octets were kept. -/
def rows (r : Undecoded) : List Row :=
  Row.list
    [("Version", r.version.map showNat32), ("DataSize", some (Text.decimal 1 r.data.length))]

/-- The octets are not part of the JSON form. -/
def toJson (r : Undecoded) : Json := .object [("version", .option jsonNat32 r.version)]

end Undecoded

/-- The folders that a file depends on. -/
structure FolderDependencies where
  folders : Array String := #[]
  deriving DecidableEq, Repr

namespace FolderDependencies

/-- The least count that the folders must not have. -/
def limit : UInt32 := 0xFFFF

/-- Reads one folder and appends it. -/
def folderDecoder : Decoder (Draft FolderDependencies) Unit := do
  let folder ← Decoder.read .string
  Decoder.store fun r => { r with folders := r.folders.push folder }

/-- Reads the count and the folders. -/
def decoder : Decoder (Draft FolderDependencies) Unit := do
  let count ← Decoder.read .nat32
  if limit ≤ count then
    Decoder.exceeded .folderDependencyCount count.toNat limit.toNat
  else folderDecoder.repeated count.toNat

/-- The number of folders, and a row for each. -/
def rows (r : FolderDependencies) : List Row :=
  ⟨"Count", Text.decimal 1 r.folders.size⟩ :: r.folders.toList.map fun folder => ⟨"Folder", folder⟩

/-- The JSON form of the folders. -/
def toJson (r : FolderDependencies) : Json :=
  .object [("folders", .array (r.folders.toList.map Json.string))]

end FolderDependencies
end GameBox
