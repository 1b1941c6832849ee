import GameBox.Field.Write
import GameBox.Real.Shortest
import GameBox.Decoder
import GameBox.Class.Table
import GameBox.Identifier
import GameBox.Time.Race
import GameBox.Time.Calendar
import GameBox.PackMask
import GameBox.Cursor
import GameBox.Reference.Write
import GameBox.Markup.Write
import GameBox.Command.Run
import GameBox.Main
import GameBox.Proofs.File.PayloadsApart
import GameBox.Proofs.File.Isolation
import GameBox.Proofs.File.RoundTrip
import GameBox.Chunk.Partial
import GameBox.Proofs.Chunk.Growth
import GameBox.Proofs.Chunk.Monotone
import GameBox.Proofs.File.Cut
import GameBox.Proofs.Header.Locality
import GameBox.Proofs.Reading.Agreement
import GameBox.Proofs.File.Noninterference
import GameBox.Proofs.Text.Utf8
import GameBox.Proofs.Reading.Binary
import GameBox.Identifier.Write
import GameBox.Proofs.Identifier.RoundTrip
import GameBox.Chunk.Contents
import GameBox.Proofs.Chunk.Written
import GameBox.Proofs.Chunk.RoundTrip
import GameBox.Proofs.Reading.Text
import GameBox.Identifier.History
import GameBox.Proofs.Identifier.History
import GameBox.Identifier.Encoder
import GameBox.Proofs.Identifier.Lookback
import GameBox.Proofs.Reference.RoundTrip
import GameBox.Decoder.Datum
import GameBox.Proofs.Chunk.Encodings
import GameBox.Proofs.Command.Survey
import GameBox.Reference.Order
import GameBox.Proofs.Reference.Numbering
import GameBox.Chunk.Ladder
import GameBox.Proofs.Chunk.Ladder
import GameBox.Chunk.Sized
import GameBox.Proofs.Chunk.Sized
import GameBox.Proofs.Display.PackMask
import GameBox.Proofs.Directory.Binary
import GameBox.Proofs.Reference.Walk
import GameBox.Reference.Walk
import GameBox.Proofs.Reading.Width
import GameBox.Proofs.Reference.Bounds
import GameBox.Header.Grammar
import GameBox.Proofs.Header.Grammar
import GameBox.Proofs.Header.Checks
import GameBox.Text.Numeral.Grammar
import GameBox.Proofs.Text.Longest
import GameBox.Proofs.Reading.Decimal
import GameBox.Proofs.Reading.Mask
import GameBox.Proofs.Reading.Line
import GameBox.Proofs.Text.LongestReal
import GameBox.Proofs.Reading.Real
import GameBox.Proofs.Text.Digits
import GameBox.Proofs.Display.RaceTime
import GameBox.Proofs.Reference.Outline
import GameBox.Proofs.Time.Calendar
import GameBox.Proofs.Display.Instant
import GameBox.Markup.Grammar
import GameBox.Proofs.Markup.Attribute
import GameBox.Proofs.Markup.Scanning
import GameBox.Proofs.Markup.Document
import GameBox.Proofs.Chunk.Community
import GameBox.Cursor.Request
import GameBox.Proofs.Reading.LineEnd
import GameBox.Proofs.Reading.Cursor
