import GameBox.Field
import GameBox.Text.Quoted

/-!
# What can go wrong

There are two layers of errors.  A `ReadError` says why one field could not be read; a
`DecodeError` says why a part of a file could not be decoded, and wraps the error of a field
where that was the reason.  Each error is a cause with its data; the wording is given once, in
`message`.
-/

namespace GameBox

/-- The three kinds of errors: input that ends too early, input that is wrong, and input that is
right but not handled. -/
inductive ErrorKind where
  | truncated
  | malformed
  | unsupported
  deriving DecidableEq, Repr

/-- The counts and sizes that have a bound. -/
inductive Quantity where
  | stringLength
  | userDataSize
  | externalRefCount
  | headerChunkCount
  | folderCount
  | menuIconCount
  | folderDependencyCount
  deriving DecidableEq, Repr

/-- How a quantity is called in a message. -/
def Quantity.label : Quantity → String
  | stringLength => "string length"
  | userDataSize => "user data size"
  | externalRefCount => "external reference count"
  | headerChunkCount => "header chunk count"
  | folderCount => "folder count"
  | menuIconCount => "menu icon count"
  | folderDependencyCount => "folder dependency count"

/-- Why a field could not be read. -/
inductive ReadError where
  /-- The buffer ends before the field does. -/
  | truncated (needed available : Nat)
  /-- A carriage return at this position is not followed by a line feed. -/
  | badLineTerminator (position : Nat)
  /-- The line at this position does not end within the limit. -/
  | lineTooLong (position limit : Nat)
  /-- A line does not begin with the numeral that was expected. -/
  | invalidText (expected : Field) (line : String)
  /-- A count or size is out of bounds. -/
  | limitExceeded (what : Quantity) (value limit : Nat)
  deriving DecidableEq, Repr

namespace ReadError

/-- The kind of an error: the buffer ended, or its octets are wrong. -/
def kind : ReadError → ErrorKind
  | truncated .. => .truncated
  | _ => .malformed

/-- The message of an error. -/
def message : ReadError → String
  | truncated needed available =>
    "unexpected end of buffer: needed " ++ Text.decimal 1 needed ++ " bytes but only " ++
      Text.decimal 1 available ++ " available"
  | badLineTerminator position =>
    "carriage return at offset " ++ Text.decimal 1 position ++ " is not followed by a line feed"
  | lineTooLong position limit =>
    "line at offset " ++ Text.decimal 1 position ++ " is longer than " ++
      Text.decimal 1 limit ++ " bytes"
  | invalidText expected line =>
    "cannot parse " ++ expected.label ++ " from text " ++ Text.quote line
  | limitExceeded what value limit =>
    what.label ++ " " ++ Text.decimal 1 value ++ " exceeds the limit of " ++ Text.decimal 1 limit

end ReadError

/-- Why a file could not be opened. -/
inductive FileError where
  | notFound
  | notDirectory
  | isDirectory
  | nameTooLong
  /-- Any other reason, in the words of the system. -/
  | other (reason : String)
  deriving DecidableEq, Repr

namespace FileError

/-- The message of the system. -/
def message : FileError → String
  | notFound => "No such file or directory (os error 2)"
  | notDirectory => "Not a directory (os error 20)"
  | isDirectory => "No such device (os error 19)"
  | nameTooLong => "File name too long (os error 36)"
  | other reason => reason

end FileError

/-- Why a part of a file could not be decoded. -/
inductive DecodeError where
  | file (error : FileError)
  | read (error : ReadError)
  /-- The file does not begin with the magic octets. -/
  | invalidMagic (actual : List UInt8)
  | unsupportedVersion (version : UInt16)
  /-- The storage settings hold a letter that stands for nothing. -/
  | invalidStorageSettings (letters : String)
  /-- The chunk table is empty. -/
  | noChunks
  | identifierVersion (version : UInt32)
  /-- Other octets stand where a marker should. -/
  | unexpectedTag (expected actual : String)
  | folderTooDeep (limit : Nat)
  | compressedRefTable
  | textBody
  | refTableUnavailable
  deriving DecidableEq, Repr

namespace DecodeError

/-- The kind of an error.  A file that cannot be opened counts as one that ended. -/
def kind : DecodeError → ErrorKind
  | file _ => .truncated
  | read error => error.kind
  | invalidMagic _ | invalidStorageSettings _ | noChunks | identifierVersion _
  | unexpectedTag .. | folderTooDeep _ => .malformed
  | unsupportedVersion _ | compressedRefTable | textBody | refTableUnavailable => .unsupported

/-- Octets as a list of numbers. -/
def octetList (bs : List UInt8) : String :=
  "[" ++ String.intercalate ", " (bs.map fun b => Text.decimal 1 b.toNat) ++ "]"

/-- The message of an error, without those of the errors that it wraps. -/
def message : DecodeError → String
  | file error => "I/O error: " ++ error.message
  | read error => error.message
  | invalidMagic actual => "invalid GBX magic: expected 'GBX', got " ++ octetList actual
  | unsupportedVersion version =>
    "unsupported GBX version: " ++ Text.decimal 1 version.toNat ++ " (expected 3 to 6)"
  | invalidStorageSettings letters => "invalid storage settings: " ++ Text.quote letters
  | noChunks => "no header chunks"
  | identifierVersion version =>
    "unsupported identifier version: " ++ Text.decimal 1 version.toNat
  | unexpectedTag expected actual =>
    "expected " ++ Text.quote expected ++ ", got " ++ Text.quote actual
  | folderTooDeep limit => "folder tree deeper than " ++ Text.decimal 1 limit ++ " levels"
  | compressedRefTable => "reference table is compressed"
  | textBody => "text-mode body"
  | refTableUnavailable => "body position unknown: reference table not parsed"

/-- The messages of an error from the outside in: an error that wraps another one is followed by
the one it wraps. -/
def causes (error : DecodeError) : List String :=
  match error with
  | file inner => [error.message, inner.message]
  | read inner => [error.message, inner.message]
  | _ => [error.message]

@[simp] theorem kind_read (error : ReadError) : (read error).kind = error.kind := rfl

@[simp] theorem message_read (error : ReadError) : (read error).message = error.message := rfl

end DecodeError
end GameBox
