import GameBox.Proofs.Chunk.Monotone
import GameBox.Proofs.Reading.Encodings

/-!
# Chunks in two encodings

A chunk means the same whether it is written as fixed-width octets or as lines, and this is a
property of every kind of chunks at once: the data of a kind are told without an encoding
(`Decoder.Prescribes`), and `Decoder.Prescribes.endsAlike` compares the two runs on them.  What is
left is to start from a fresh table of identifiers and the blank record.

The comparison holds for a list that is cut anywhere, too.  Fields have other widths in the other
encoding, and so the two buffers end at different positions, but they end at the same datum.

## Reals

Lines of reals are the one place where the text encoding has less room than its grammar suggests.  A
line has a greatest length, which a real may exceed with zeros alone, and a real that is not finite
has a name in other formats that is no numeral here.  `RealLine` leaves these lines out, and
`ChunkData.not_decode_encodings` shows what becomes of them.
-/

namespace GameBox
namespace ChunkData

open Decoder

variable {kind : ChunkKind} {data : List Datum}

/-- **Encodings.**  A list of data that a kind of chunks prescribes, cut anywhere, is decoded to the
same record and the same identifiers from either encoding.  Both buffers are read to their ends.
Either neither run fails, or both do because the first datum that is not there is missing. -/
theorem decode_encodings (h : kind.decoder.Prescribes ⟨.empty, kind.blank⟩ data) (count : Nat) :
    let there := data.take count
    let binary := decode kind .binary (Datum.writeAll .binary there).toArray .empty
    let text := decode kind .text (Datum.writeAll .text there).toArray .empty
    binary.chunk = text.chunk ∧ binary.idents = text.idents ∧
      binary.next = (Datum.writeAll .binary there).length ∧
      text.next = (Datum.writeAll .text there).length ∧
      (binary.error = none ∧ text.error = none ∨
        ∃ datum, (data.drop count).find? (!·.isBlank) = some datum ∧
          binary.error = some (.read (.truncated (datum.need .binary) 0)) ∧
          text.error = some (.read (.truncated (datum.need .text) 0))) := by
  obtain ⟨ending, last, hgone, hrun⟩ := h.endsAlike (kind.accrues_decoder .empty) count
  intro there binary text
  have hdecode (encoding : Encoding) : decode kind encoding
      (Datum.writeAll encoding there).toArray .empty =
        ⟨⟨kind, last.record⟩,
          error? (ending.mapError fun datum => .read (.truncated (datum.need encoding) 0)),
          (Datum.writeAll encoding there).length, last.idents⟩ := by
    have hzero := hrun encoding []
    rw [List.nil_append, List.length_nil, Nat.zero_add] at hzero
    rw [decode, hzero]
  have hbinary : binary = _ := hdecode .binary
  have htext : text = _ := hdecode .text
  rw [hbinary, htext]
  refine ⟨rfl, rfl, rfl, rfl, ?_⟩
  cases hending : ending with
  | ok value => exact .inl ⟨rfl, rfl⟩
  | error datum => exact .inr ⟨datum, hgone datum hending, rfl, rfl⟩

/-- The real one, in decimal digits with an exponent. -/
def oneLine : RealLine where
  line := [0x31, 0x30, 0x65, 0x2D, 0x31]
  numeral := ⟨false, [0x31, 0x30], [], true, [0x31]⟩
  denotes := rfl
  oneLine := by decide
  short := by decide

/-- A race with wind, but without buoys. -/
def windy : List Datum := [.nat8 1, .nat32 0, .nat32 5, .nat32 7, .real oneLine]

/-- A mood, behind the version of its identifier, and an empty decoration. -/
def day : List Datum :=
  [.nat32 3, .nat32 0x40000000,
    .field .string "Day" (by decide) fun encoding => by cases encoding <;> decide,
    .field .string "" (by decide) fun encoding => by cases encoding <;> decide]

theorem prescribes_windy :
    ChunkKind.vskDesc.decoder.Prescribes ⟨.empty, ChunkKind.vskDesc.blank⟩ windy := by
  refine .field _ _ _ (.change (.look (.goesOn ?_)))
  refine .field _ _ _ (.change (.field _ _ _ (.change (.goesOn ?_))))
  refine .field _ _ _ (.change (.real _ (.change ?_)))
  exact .done _ _

theorem prescribes_day :
    ChunkKind.mood.decoder.Prescribes ⟨.empty, ChunkKind.mood.blank⟩ day := by
  refine .look (.field _ _ _ (.change (.field _ _ _ (.look ?_))))
  refine .field _ _ _ (.change (.change (.goesOn ?_)))
  refine .field _ _ _ (.change ?_)
  exact .done _ _

/-- The wind is cut off in the middle of a layer and the decoration in front of one. -/
theorem decode_encodings_cut :
    (decode .vskDesc .binary #[1, 0, 0, 0, 0, 5, 0, 0, 0, 7, 0, 0, 0] .empty).error =
        some (.read (.truncated 4 0)) ∧
      (decode .vskDesc .text "1\r\n0\r\n5\r\n7\r\n".toUTF8.data .empty).error =
        some (.read (.truncated 2 0)) ∧
      (decode .mood .binary #[3, 0, 0, 0, 0, 0, 0, 64, 3, 0, 0, 0, 68, 97, 121] .empty).idents =
        (decode .mood .text "3\r\n1073741824\r\nDay\r\n".toUTF8.data .empty).idents := by
  obtain ⟨-, -, -, -, herrors⟩ := decode_encodings prescribes_windy 4
  obtain ⟨-, hidents, -⟩ := decode_encodings prescribes_day 3
  rcases herrors with ⟨hnone, -⟩ | ⟨datum, hdatum, hbinary, htext⟩
  · cases hnone
  · cases hdatum
    exact ⟨hbinary, htext, hidents⟩

/-! ### Lines that are not read -/

/-- The octets of a text chunk up to the line of its wind speed. -/
def beforeWind : List UInt8 := [0x31, 13, 10, 0x30, 13, 10, 0x35, 13, 10, 0x37, 13, 10]

/-- If the line of the wind speed cannot be read, this is why decoding fails. -/
theorem error_decode_of_wind {line : List UInt8} {error : ReadError} {next : Nat}
    (h : Field.real.read .text (beforeWind ++ line).toArray 12 = ⟨.error error, next⟩) :
    (decode .vskDesc .text (beforeWind ++ line).toArray .empty).error = some (.read error) := by
  have hversion := Field.reads_write_of_ne .text .nat8 (by decide) (by decide) (1 : UInt8) []
    (beforeWind.drop 3 ++ line)
  have hmode := Field.reads_write_of_ne .text .nat32 (by decide) (by decide) (0 : UInt32)
    (beforeWind.take 3) (beforeWind.drop 6 ++ line)
  have hlaps := Field.reads_write_of_ne .text .nat32 (by decide) (by decide) (5 : UInt32)
    (beforeWind.take 6) (beforeWind.drop 9 ++ line)
  have hwind := Field.reads_write_of_ne .text .nat32 (by decide) (by decide) (7 : UInt32)
    (beforeWind.take 9) line
  change Field.nat8.read .text (beforeWind ++ line).toArray 0 = ⟨.ok 1, 3⟩ at hversion
  change Field.nat32.read .text (beforeWind ++ line).toArray 3 = ⟨.ok 0, 6⟩ at hmode
  change Field.nat32.read .text (beforeWind ++ line).toArray 6 = ⟨.ok 5, 9⟩ at hlaps
  change Field.nat32.read .text (beforeWind ++ line).toArray 9 = ⟨.ok 7, 12⟩ at hwind
  have hleft (pos : Nat) (hpos : pos < 12) : pos < (beforeWind ++ line).toArray.size := by
    rw [List.size_toArray, List.length_append]
    have hlength : beforeWind.length = 12 := rfl
    omega
  generalize (beforeWind ++ line).toArray = data at *
  let wind : Regatta := ⟨1, some .fleet, some 5, some 7, none, none⟩
  have hrun : ChunkKind.vskDesc.decoder.run .text data 0 ⟨.empty, ChunkKind.vskDesc.blank⟩ =
      ⟨.error (.read error), next, ⟨.empty, wind⟩⟩ := by
    -- Every field is stored, and the version is looked at before the layers.
    refine (run_field_of_read hversion).trans <| (run_change _ _ _ _ _ _).trans <|
      (run_look _ _ _ _ _).trans ?_
    refine (run_exhausted_of_lt (hleft 3 (by decide))).trans ?_
    refine (run_field_of_read hmode).trans <| (run_change _ _ _ _ _ _).trans ?_
    refine (run_field_of_read hlaps).trans <| (run_change _ _ _ _ _ _).trans ?_
    refine (run_exhausted_of_lt (hleft 9 (by decide))).trans ?_
    refine (run_field_of_read hwind).trans <| (run_change _ _ _ _ _ _).trans ?_
    exact run_field_of_error h
  rw [decode, hrun]
  rfl

/-- **The lines of reals matter.**  The real zero may be written with so many digits that its line
is too long, and a word that means infinity is no numeral. -/
theorem not_decode_encodings :
    ((Numeral.real? (List.replicate 4096 0x30)).map Binary32.ofNumeral = some ⟨0⟩ ∧
      (decode .vskDesc .binary #[1, 0, 0, 0, 0, 5, 0, 0, 0, 7, 0, 0, 0, 0, 0, 0, 0] .empty).error =
        none ∧
      (decode .vskDesc .text (beforeWind ++ (List.replicate 4096 0x30 ++ [13, 10])).toArray
        .empty).error = some (.read (.lineTooLong 12 4096))) ∧
    (decode .vskDesc .binary #[1, 0, 0, 0, 0, 5, 0, 0, 0, 7, 0, 0, 0, 0, 0, 128, 127]
        .empty).error = none ∧
      (decode .vskDesc .text "1\r\n0\r\n5\r\n7\r\ninf\r\n".toUTF8.data .empty).error =
        some (.read (.invalidText .real "inf")) := by
  have hzero : (Numeral.real? (List.replicate 4096 0x30)).map Binary32.ofNumeral = some ⟨0⟩ := by
    have hnumeral : Numeral.real? (List.replicate 4096 0x30) = _ :=
      Numeral.real?_replicate_zero 4095
    rw [hnumeral, Option.map_some, Binary32.ofNumeral]
    dsimp only
    rw [Numeral.value_replicate_zero_append]
    rfl
  refine ⟨⟨hzero, rfl, ?_⟩, rfl, rfl⟩
  have hreturn : 0x0D ∉ List.replicate 4096 (0x30 : UInt8) := fun h =>
    absurd (List.eq_of_mem_replicate h) (by decide)
  have hlong := Octets.line_of_long hreturn (Nat.le_of_eq List.length_replicate.symm) beforeWind
    [13, 10]
  rw [List.append_assoc] at hlong
  have hwind : Field.real.read .text
      (beforeWind ++ (List.replicate 4096 0x30 ++ [13, 10])).toArray 12 =
        ⟨.error (.lineTooLong 12 4096), 12⟩ := by
    show ((Octets.line _ beforeWind.length).check _).map _ = _
    rw [hlong]
    rfl
  exact error_decode_of_wind hwind

end ChunkData
end GameBox
