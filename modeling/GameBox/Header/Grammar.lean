import GameBox.Header

/-!
# The octets of a binary header

A header can be described without a reader: by the octets that a binary header is made of, by the
conditions that the beginning of a file has to meet one after the other, and by the octets that a
header stands for.  These are the three descriptions; that the reader agrees with them is shown
elsewhere.

* `Header.IsBinary`: the octets of a binary header.
* `Check`, `Header.binaryChecks`: the conditions, and the error of each.
* `Header.rebuild?`: the octets of a binary header, from what it says.
* `Header.readIn`: reading a header with a reader that is set to either encoding.
-/

namespace GameBox

/-- A condition, and the error if it is not met. -/
structure Check where
  holds : Bool
  error : DecodeError

/-- The error of the first condition that is not met. -/
def Check.firstFailure? : List Check → Option DecodeError
  | [] => none
  | check :: checks => if check.holds then firstFailure? checks else some check.error

/-- The octets of a text all of whose characters are those of octets. -/
def Text.latin1? (text : String) : Option (List UInt8) :=
  text.toList.mapM fun c => if c.toNat < 256 then some (UInt8.ofNat c.toNat) else none

namespace Header

/-- The octets of a binary header: the magic, the version, three letters with one more octet from
version four on, the class, and from version six on the size of the user data. -/
inductive IsBinary : List UInt8 → Prop
  | intro {version : Nat} {refTable body : UInt8} {extra classId size : List UInt8}
    (hversion : 3 ≤ version ∧ version ≤ 6) (hrefTable : refTable = 0x43 ∨ refTable = 0x55)
    (hbody : body = 0x43 ∨ body = 0x55)
    (hextra : extra.length = if version < 4 then 0 else 1) (hclassId : classId.length = 4)
    (hsize : if version = 6 then size.length = 4 ∧ littleEndian size < 0x400000
      else size = []) :
    IsBinary ([0x47, 0x42, 0x58] ++ octets 2 version ++ ([0x42, refTable, body] ++ extra) ++
      classId ++ size)

/-- What is checked of a file that does not name the text encoding, in this order. -/
def binaryChecks (data : Octets) : List Check :=
  let version := littleEndian ((data.toList.drop 3).take 2)
  let width := if version < 4 then 3 else 4
  let size := littleEndian ((data.toList.drop (5 + width + 4)).take 4)
  [⟨5 ≤ data.size, .read (.truncated 5 data.size)⟩,
    ⟨data.toList.take 3 = [0x47, 0x42, 0x58], .invalidMagic (data.toList.take 3)⟩,
    ⟨3 ≤ version ∧ version ≤ 6, .unsupportedVersion (UInt16.ofNat version)⟩,
    ⟨5 + width ≤ data.size, .read (.truncated width (data.size - 5))⟩,
    ⟨data[5]? = some 0x42 ∧ (data[6]? = some 0x43 ∨ data[6]? = some 0x55) ∧
        (data[7]? = some 0x43 ∨ data[7]? = some 0x55),
      .invalidStorageSettings (Utf8.decode ((data.toList.drop 5).take width))⟩,
    ⟨5 + width + 4 ≤ data.size, .read (.truncated 4 (data.size - (5 + width)))⟩,
    ⟨version ≠ 6 ∨ 5 + width + 4 + 4 ≤ data.size,
      .read (.truncated 4 (data.size - (5 + width + 4)))⟩,
    ⟨version ≠ 6 ∨ size < 0x400000, .read (.limitExceeded .userDataSize size 0x400000)⟩]

/-- The octets of a binary header, made of what it says: the letters are those of the text of its
settings. -/
def rebuild? (header : Header) : Option (List UInt8) :=
  (Text.latin1? header.storage.text).map fun letters =>
    [0x47, 0x42, 0x58] ++ octets 2 header.version.toNat ++ letters ++
      octets 4 header.classId.toNat ++
      if header.version = 6 then octets 4 header.userDataSize.toNat else []

/-- Reads the header up to the user data with a reader that is set to an encoding before. -/
def readIn (initial : Encoding) (data : Octets) (pos : Nat) : Found DecodeError Header :=
  match preludeDecoder.run initial data pos () with
  | ⟨.error error, pos, _⟩ => ⟨.error error, pos⟩
  | ⟨.ok (version, storage), pos, _⟩ =>
    let outcome := (fieldsDecoder version storage).run storage.encoding data pos ()
    ⟨outcome.result, outcome.next⟩

end Header
end GameBox
