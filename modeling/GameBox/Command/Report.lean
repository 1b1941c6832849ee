import GameBox.File

/-!
# What the commands print

Each command turns what it was given into the text that it prints, or into a failure with its
causes.

* `Output`, `Output.failure`: what a program prints and how it ends.
* `Report.info`, `Report.chunks`, `Report.refs`: reports on one file.
* `Report.classes`: the known classes.
* `Report.Survey`, `Report.survey`: counting many files.
-/

namespace GameBox

/-- What a program prints, and its exit code. -/
structure Output where
  code : UInt32 := 0
  stdout : String := ""
  stderr : String := ""
  deriving DecidableEq, Repr

namespace Output

/-- Lines on the standard output, and success. -/
def success (lines : List String) : Output := { stdout := Text.lines lines }

/-- A cause in a list of causes; one of several has a number. -/
def causeLine (numbered : Bool) (cause : String × Nat) : String :=
  if numbered then Text.alignRight 5 (Text.decimal 1 cause.2) ++ ": " ++ cause.1
  else "    " ++ cause.1

/-- A failure: what could not be done, and its causes from the outside in. -/
def failure (what : String) (causes : List String) : Output where
  code := 1
  stderr := Text.lines
    (["Error: " ++ what, "", "Caused by:"] ++
      causes.zipIdx.map (causeLine (1 < causes.length)))

end Output

namespace Report

/-- Decodes the contents of a file, if it could be opened. -/
def decode (contents : Except FileError Octets) : Except DecodeError File :=
  match contents with
  | .error error => .error (.file error)
  | .ok data => File.parse data

/-- Reports on a file that can be decoded. -/
def onFile (name : String) (contents : Except FileError Octets) (report : File → Output) :
    Output :=
  match decode contents with
  | .error error => .failure ("Failed to decode " ++ name) error.causes
  | .ok file => report file

/-! ## One file -/

/-- The lines about the header. -/
def headerLines (name : String) (header : Header) : List String :=
  let className := (header.class?.map Class.name).getD "(unknown)"
  ["File:      " ++ name,
   "Version:   " ++ Text.decimal 1 header.version.toNat,
   "Storage:   " ++ header.storage.text,
   "Class:     " ++ Text.mask32 header.classId ++ " " ++ className,
   "Category:  " ++ header.category.name,
   "User data: " ++ Text.decimal 1 header.userDataSize.toNat ++ " bytes",
   "Nodes:     " ++ Text.decimal 1 header.nodes.toNat,
   "Refs:      " ++ Text.decimal 1 header.externalRefs.toNat]

/-- The lines about the chunk table. -/
def directoryLines : Except DecodeError Directory → List String
  | .ok directory => ["", Text.decimal 1 directory.entries.length ++ " header chunks"]
  | .error error => ["", "Header chunks: " ++ error.message]

/-- The lines about a chunk. -/
def chunkLines (chunk : Chunk) : List String :=
  ["", "[" ++ Text.mask32 chunk.entry.id ++ "] " ++ chunk.data.kind.name ++ " (" ++
    Text.decimal 1 chunk.entry.size.toNat ++ " bytes)"] ++
    chunk.data.rows.map (fun row => "  " ++ row.text) ++
    chunk.error.toList.map fun error => "  ! " ++ error.message

/-- The line about the table of references. -/
def refTableLine : Except DecodeError RefTable → String
  | .ok table =>
    "Reference table: " ++ Text.decimal 1 table.allFolders.length ++ " folders, " ++
      Text.decimal 1 table.refs.length ++ " refs"
  | .error error => "Reference table: " ++ error.message

/-- The line about the body. -/
def bodyLine : Except DecodeError Body → String
  | .ok (.compressed uncompressedSize compressedSize) =>
    "Body: compressed, " ++ Text.decimal 1 compressedSize.toNat ++ " -> " ++
      Text.decimal 1 uncompressedSize.toNat ++ " bytes"
  | .ok (.uncompressed size) => "Body: uncompressed, " ++ Text.decimal 1 size ++ " bytes"
  | .error error => "Body: " ++ error.message

/-- All that is known about a file. -/
def info (name : String) (json : Bool) (contents : Except FileError Octets) : Output :=
  onFile name contents fun file =>
    if json then .success [file.toJson.pretty]
    else
      .success
        (headerLines name file.header ++ directoryLines file.directory ++
          file.chunks.flatMap chunkLines ++
          ["", refTableLine file.refTable, bodyLine file.body])

/-- A row of the chunk table. -/
def tableRow (id size offset kind : String) : String :=
  Text.alignRight 10 id ++ " " ++ Text.alignRight 8 size ++ " " ++
    Text.alignRight 8 offset ++ " " ++ kind

/-- The chunk table of a file. -/
def chunks (name : String) (contents : Except FileError Octets) : Output :=
  onFile name contents fun file =>
    match file.directory with
    | .error error => .failure "Failed to read the header chunk table" [error.message]
    | .ok directory =>
      let row (entry : Entry) : String :=
        tableRow (Text.mask32 entry.id) (Text.decimal 1 entry.size.toNat)
          (Text.decimal 1 entry.offset.toNat) ((entry.kind.map ChunkKind.name).getD "-")
      .success
        ([tableRow "ID" "SIZE" "OFFSET" "KIND"] ++ directory.entries.map row ++
          ["", "Total: " ++ Text.decimal 1 directory.entries.length ++ " chunks"])

/-- What a reference leads to. -/
def target (table : RefTable) (ref : Reference) : String :=
  match ref.target with
  | .file _ => (table.resolve? ref).getD "(bad folder index)"
  | .resource index => "resource #" ++ Text.decimal 1 index.toNat

/-- The line about a reference. -/
def refLine (table : RefTable) (ref : Reference × Nat) : String :=
  Text.alignRight 5 (Text.decimal 1 ref.2) ++ " node " ++
    Text.alignRight 5 (Text.decimal 1 ref.1.nodeIndex.toNat) ++ "  " ++ target table ref.1

/-- The folder trees and the references of a file. -/
def refs (name : String) (contents : Except FileError Octets) : Output :=
  onFile name contents fun file =>
    match file.refTable with
    | .error error => .failure "Failed to read the reference table" [error.message]
    | .ok table =>
      let folders :=
        if table.folders.isEmpty then []
        else ["", "Folders:"] ++ Folder.linesAll 1 table.folders
      .success
        (["Ancestor level: " ++ Text.decimal 1 table.ancestorLevel.toNat] ++ folders ++
          ["", "Refs:"] ++ table.refs.zipIdx.map (refLine table) ++
          ["", "Total: " ++ Text.decimal 1 table.refs.length ++ " refs"])

/-! ## Classes -/

/-- A name in lower-case letters, as far as they are ASCII. -/
def foldCase (name : String) : List Char := name.toList.map Char.toLower

/-- The known classes, or those of a category whose name is given in any case. -/
def classes (category : Option String) : Output :=
  let admits (entry : Class) : Bool :=
    category.all fun name => foldCase entry.category.name = foldCase name
  let chosen := Class.known.filter admits
  let row (entry : Class) : String :=
    Text.mask32 entry.id ++ " " ++ Text.alignLeft 12 entry.category.name ++ " " ++ entry.name
  .success
    (chosen.map row ++ ["", "Total: " ++ Text.decimal 1 chosen.length ++ " classes"])

/-! ## Many files -/

/-- The counts over many files. -/
structure Survey where
  files : Nat := 0
  complete : Nat := 0
  /-- How many files there are of each category that occurs. -/
  categories : List (String × Nat) := []
  /-- The files that could not be decoded, and why. -/
  failures : List (String × String) := []
  deriving DecidableEq, Repr

namespace Survey

/-- The categories of files in alphabetical order, each with its count. -/
def count (files : List File) : List (String × Nat) :=
  let names := files.map fun file => file.header.category.name
  (names.eraseDups.mergeSort fun a b => a ≤ b).map fun name => (name, names.count name)

/-- The counts over files by their names, in the order in which they are given. -/
def ofFiles (files : List (String × Except FileError Octets)) : Survey :=
  let outcomes := files.map fun (name, contents) => (name, decode contents)
  let decoded := outcomes.filterMap fun (_, outcome) => outcome.toOption
  { files := files.length
    complete := decoded.countP File.isComplete
    categories := count decoded
    failures := outcomes.filterMap fun (name, outcome) =>
      match outcome with
      | .ok _ => none
      | .error error => some (name, error.message) }

/-- The files that were decoded in part. -/
def partiallyDecoded (survey : Survey) : Nat :=
  survey.files - survey.complete - survey.failures.length

/-- The JSON form of the counts; the categories are the members of an object. -/
def toJson (survey : Survey) : Json :=
  let failure : String × String → Json
    | (path, error) => .object [("path", .string path), ("error", .string error)]
  .object
    [("files", .nat survey.files),
     ("complete", .nat survey.complete),
     ("categories", .object (survey.categories.map fun (name, count) => (name, .nat count))),
     ("failures", .array (survey.failures.map failure))]

end Survey

/-- The report on many files. -/
def survey (json : Bool) (files : List (String × Except FileError Octets)) : Output :=
  let survey := Survey.ofFiles files
  if json then .success [survey.toJson.pretty]
  else
    { stdout := Text.lines
        (["Scanned " ++ Text.decimal 1 survey.files ++ " files"] ++
          survey.categories.map (fun (name, count) =>
            Text.alignRight 12 name ++ " " ++ Text.decimal 1 count) ++
          [Text.decimal 1 survey.complete ++ " fully decoded, " ++
            Text.decimal 1 survey.partiallyDecoded ++ " partially, " ++
            Text.decimal 1 survey.failures.length ++ " failed"])
      stderr := Text.lines
        (survey.failures.map fun (path, error) => "Error decoding " ++ path ++ ": " ++ error) }

end Report
end GameBox
