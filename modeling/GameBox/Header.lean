import GameBox.Class.Table
import GameBox.Decoder

/-!
# The header of a file

A file begins with three magic octets, a version, and storage settings: letters that name the
encoding and say whether the reference table and the body are compressed.  Versions from four on
have one more octet there.  From then on the encoding holds: the class of the file follows, and
from version six on the size of the user data.  Behind the user data stand two counts.

* `Storage`: the storage settings and their letters.
* `Header`, `Header.read`: the header up to the user data.
* `Header.readCounts`: the counts behind the user data.
-/

namespace GameBox

/-- The settings by which a file is stored. -/
structure Storage where
  encoding : Encoding
  refTableCompressed : Bool
  bodyCompressed : Bool
  /-- An octet without a known meaning, from version four on. -/
  extra : Option UInt8
  deriving DecidableEq, Repr, Inhabited

namespace Storage

/-- The encoding that a letter names. -/
def encoding? (letter : UInt8) : Option Encoding :=
  if letter = 0x42 then some .binary else if letter = 0x54 then some .text else none

/-- Whether a letter says that a part is compressed. -/
def compressed? (letter : UInt8) : Option Bool :=
  if letter = 0x43 then some true else if letter = 0x55 then some false else none

/-- The settings that letters name. -/
def ofLetters? : List UInt8 → Option Storage
  | first :: second :: third :: extra => do
    let encoding ← encoding? first
    let refTableCompressed ← compressed? second
    let bodyCompressed ← compressed? third
    some ⟨encoding, refTableCompressed, bodyCompressed, extra.head?⟩
  | _ => none

/-- The letter of an encoding. -/
def encodingLetter : Encoding → UInt8
  | .binary => 0x42
  | .text => 0x54

/-- The letter of what is compressed or not. -/
def compressedLetter (compressed : Bool) : UInt8 :=
  if compressed then 0x43 else 0x55

/-- The letters that name settings. -/
def letters (storage : Storage) : List UInt8 :=
  [encodingLetter storage.encoding, compressedLetter storage.refTableCompressed,
    compressedLetter storage.bodyCompressed] ++ storage.extra.toList

/-- The letters as text; each octet is the character of its number. -/
def text (storage : Storage) : String :=
  String.ofList (storage.letters.map fun b => Char.ofNat b.toNat)

/-- The letters of settings name them. -/
theorem ofLetters?_letters (storage : Storage) : ofLetters? storage.letters = some storage := by
  obtain ⟨encoding, refTable, body, extra⟩ := storage
  cases encoding <;> cases refTable <;> cases body <;> cases extra <;> rfl

end Storage

/-- The header of a file. -/
structure Header where
  version : UInt16
  storage : Storage
  classId : UInt32
  /-- The size of the user data, zero before version six. -/
  userDataSize : UInt32
  /-- The counts are zero until they are read. -/
  nodes : UInt32 := 0
  externalRefs : UInt32 := 0
  deriving DecidableEq, Repr, Inhabited

namespace Header

/-- The octets that every file begins with. -/
def magic : List UInt8 := [0x47, 0x42, 0x58]

/-- The octets of the magic and the version. -/
def preludeSize : Nat := 5

/-- The first supported version. -/
def minVersion : UInt16 := 3

/-- The last supported version. -/
def maxVersion : UInt16 := 6

/-- The least size that the user data must not have. -/
def userDataLimit : UInt32 := 0x400000

/-- The least count that the external references must not have. -/
def externalRefLimit : UInt32 := 50000

/-- The class of a file, if it is known. -/
def class? (header : Header) : Option Class := Class.find? header.classId

/-- The category of a file. -/
def category (header : Header) : Category := Class.categoryOf header.classId

/-- The number of octets of the storage settings. -/
def storageSize (version : UInt16) : Nat := if version < 4 then 3 else 4

/-- Reads the version behind the magic octets. -/
def versionDecoder : Decoder Unit UInt16 := do
  let prelude ← Decoder.octets preludeSize
  let version := UInt16.ofNat (littleEndian (prelude.drop 3))
  if prelude.take 3 ≠ magic then .fail (.invalidMagic (prelude.take 3))
  else if version < minVersion ∨ maxVersion < version then .fail (.unsupportedVersion version)
  else pure version

/-- Reads the storage settings of a version. -/
def storageDecoder (version : UInt16) : Decoder Unit Storage := do
  let letters ← Decoder.octets (storageSize version)
  match Storage.ofLetters? letters with
  | some storage => pure storage
  | none => .fail (.invalidStorageSettings (Utf8.decode letters))

/-- Reads what stands before the first field that depends on the encoding. -/
def preludeDecoder : Decoder Unit (UInt16 × Storage) := do
  let version ← versionDecoder
  let storage ← storageDecoder version
  pure (version, storage)

/-- Reads the size of the user data, which older versions do not have. -/
def userDataSizeDecoder (version : UInt16) : Decoder Unit UInt32 := do
  if version < 6 then pure 0
  else
    let size ← Decoder.read .nat32
    if userDataLimit ≤ size then
      Decoder.exceeded .userDataSize size.toNat userDataLimit.toNat
    else pure size

/-- Reads the fields of the header in the encoding of the file. -/
def fieldsDecoder (version : UInt16) (storage : Storage) : Decoder Unit Header := do
  let classId ← Decoder.read .mask
  let userDataSize ← userDataSizeDecoder version
  pure { version, storage, classId, userDataSize }

/-- Reads the header up to the user data. -/
def read (data : Octets) (pos : Nat) : Found DecodeError Header :=
  match preludeDecoder.run .binary data pos () with
  | ⟨.error error, pos, _⟩ => ⟨.error error, pos⟩
  | ⟨.ok (version, storage), pos, _⟩ =>
    let outcome := (fieldsDecoder version storage).run storage.encoding data pos ()
    ⟨outcome.result, outcome.next⟩

/-- Reads the counts that follow the user data.  The count of nodes is kept even if the count of
references is refused. -/
def countsDecoder : Decoder Header Unit := do
  let nodes ← Decoder.read .nat32
  Decoder.modify fun header => { header with nodes }
  let externalRefs ← Decoder.read .nat32
  if externalRefLimit ≤ externalRefs then
    Decoder.exceeded .externalRefCount externalRefs.toNat externalRefLimit.toNat
  else Decoder.modify fun header => { header with externalRefs }

/-- Reads the counts into a header. -/
def readCounts (header : Header) (data : Octets) (pos : Nat) : Outcome Header Unit :=
  countsDecoder.run header.storage.encoding data pos header

end Header

/-- What is known about the body, which is not decoded. -/
inductive Body where
  | compressed (uncompressedSize compressedSize : UInt32)
  /-- The octets that are left. -/
  | uncompressed (size : Nat)
  deriving DecidableEq, Repr

namespace Body

/-- Reads the two sizes of a compressed body. -/
def sizesDecoder : Decoder Unit Body := do
  let uncompressedSize ← Decoder.read .nat32
  let compressedSize ← Decoder.read .nat32
  pure (.compressed uncompressedSize compressedSize)

/-- Reads what is known about the body of a file. -/
def read (header : Header) (data : Octets) (pos : Nat) : Found DecodeError Body :=
  match header.storage.encoding with
  | .text => ⟨.error .textBody, pos⟩
  | .binary =>
    if header.storage.bodyCompressed then
      let outcome := sizesDecoder.run .binary data pos ()
      ⟨outcome.result, outcome.next⟩
    else ⟨.ok (.uncompressed (data.left pos)), pos⟩

end Body
end GameBox
