import GameBox.Decoder.Datum
import GameBox.Proofs.Reading.Extension
import GameBox.Proofs.Reading.Text

/-!
# Two encodings of the same data

A list of data that a decoder goes through can be written in either encoding, and both buffers can
be cut behind the same datum.  The two runs on what is left have the same state at every datum,
because what a decoder does next depends on values and on the state and not on octets.  So they end
alike: `Decoder.EndsAlike` says how, and `Decoder.Prescribes.endsAlike` shows it by induction on the
list.

Two nodes of a decoder do see octets.  A decoder that asks whether any octet is left is answered
alike because a datum is written as nothing in both encodings or in neither
(`Datum.writeAll_eq_nil_iff`).  A decoder that takes all octets that are left takes octets that are
not encoded.

At the cut the buffer ends, and every read fails there (`Field.read_size`), except one that asks for
no octets.  So a run that misses something misses the first datum behind the cut that is written as
anything.
-/

namespace GameBox

/-! ## The end of a buffer -/

namespace Octets

theorem take_size (data : Octets) {count : Nat} (h : 0 < count) :
    data.take count data.size = ⟨.error (.truncated count 0), data.size⟩ := by
  rw [take, slice?, if_neg (by omega), left, Nat.sub_self]

theorem line_size (data : Octets) : data.line data.size = ⟨.error (.truncated 2 0), data.size⟩ := by
  have hleft : data.left data.size = 0 := Nat.sub_self _
  have hafter : data.after data.size = [] :=
    List.eq_nil_of_length_eq_zero ((length_after data data.size).trans hleft)
  have hnone : data.findReturn? lineLimit data.size = none := by
    rw [findReturn?_eq_none_iff, hafter, List.take_nil]
    exact List.not_mem_nil
  simp only [line, hnone, hleft]
  rw [if_neg (by decide)]

end Octets

namespace Field

/-- Nothing can be read at the end of a buffer, and what is missing is what is asked for first. -/
theorem read_size (encoding : Encoding) (field : Field) (data : Octets) :
    field.read encoding data data.size =
      ⟨.error (.truncated (field.need encoding) 0), data.size⟩ := by
  have hword {width : Nat} (h : 0 < width) :
      word width data data.size = ⟨.error (.truncated width 0), data.size⟩ := by
    rw [word, Octets.take_size data h]
    rfl
  cases encoding with
  | binary => cases field with
    | bool | mask | nat8 | nat16 | nat32 | nat64 | integer | real | nat128 | nat256 =>
      exact congrArg (Found.map _) (hword (by decide))
    | string =>
      show lengthString data data.size = _
      rw [lengthString, hword (by decide)]
      rfl
  | text => cases field with
    | bool | string => exact congrArg (Found.map _) (Octets.line_size data)
    | mask | nat8 | nat16 | nat32 | nat64 | integer | real =>
      show ((Octets.line data data.size).check _).map _ = _
      rw [Octets.line_size]
      rfl
    | nat128 | nat256 => exact congrArg (Found.map _) (hword (by decide))

theorem write_ne_nil (encoding : Encoding) (field : Field) (value : field.Value) :
    field.write encoding value ≠ [] := by
  cases encoding <;> cases field <;>
    simp [write, writeBinary, writeText, writeNumber, writeLine, octets]

end Field

/-! ## Data -/

namespace Datum

theorem write_eq_nil_iff {encoding : Encoding} {datum : Datum} :
    datum.write encoding = [] ↔ datum.isBlank = true := by
  cases datum with
  | field kind value exact fits =>
    simp only [write, isBlank, Bool.false_eq_true, iff_false]
    exact kind.write_ne_nil encoding value
  | real real =>
    cases encoding with
    | binary => simp [write, isBlank, Field.writeBinary, GameBox.octets]
    | text => simp [write, isBlank]
  | octets piece => simp [write, isBlank]

/-- Whether data are written as nothing does not depend on the encoding. -/
theorem writeAll_eq_nil_iff {encoding : Encoding} {data : List Datum} :
    writeAll encoding data = [] ↔ ∀ datum ∈ data, datum.isBlank = true := by
  rw [writeAll, List.flatMap_eq_nil_iff]
  simp only [write_eq_nil_iff]

end Datum

theorem RealLine.reads (encoding : Encoding) (real : RealLine) :
    Reader.Reads (Field.real.read encoding) (Datum.write encoding (.real real)) real.value := by
  cases encoding with
  | binary => exact Field.reads_writeBinary .real trivial
  | text => exact Field.reads_realLine real.oneLine real.short real.denotes

/-! ## Decoders -/

namespace Decoder

variable {σ α β : Type} {le : σ → σ → Prop} {s s' : σ} {data : List Datum} {datum : Datum}

/-- On the data that are there, runs in the two encodings end alike: at the end of the buffer, in
the same state, and with the same value or because the first datum that is gone is missing. -/
def EndsAlike (d : Decoder σ α) (s : σ) (there gone : List Datum) : Prop :=
  ∃ (ending : Except Datum α) (s' : σ),
    (∀ datum, ending = .error datum → gone.find? (!·.isBlank) = some datum) ∧
    ∀ (encoding : Encoding) (front : List UInt8),
      d.run encoding (front ++ Datum.writeAll encoding there).toArray front.length s =
        ⟨ending.mapError fun datum => .read (.truncated (datum.need encoding) 0),
          front.length + (Datum.writeAll encoding there).length, s'⟩

variable {there gone : List Datum}

theorem EndsAlike.done (value : α) (s : σ) (gone : List Datum) :
    EndsAlike (.done value) s [] gone :=
  ⟨.ok value, s, nofun, fun _ _ => rfl⟩

/-- A datum that is there is read. -/
theorem EndsAlike.cons {d : Decoder σ α} {f : α → Decoder σ β} {value : α}
    (hreads : ∀ encoding, Reads encoding d s (datum.write encoding) value s')
    (h : EndsAlike (f value) s' there gone) :
    EndsAlike (d.bind f) s (datum :: there) gone := by
  obtain ⟨ending, last, hmissing, hrun⟩ := h
  refine ⟨ending, last, hmissing, fun encoding front => ?_⟩
  have hfirst := hreads encoding front (Datum.writeAll encoding there)
  have hlater := hrun encoding (front ++ datum.write encoding)
  rw [List.append_assoc] at hfirst hlater
  rw [Datum.writeAll_cons, run_bind_of_run hfirst, ← List.length_append, hlater,
    List.length_append, List.length_append, Nat.add_assoc]

/-- A datum that is not there is missed, unless it is written as nothing. -/
theorem EndsAlike.missing {d : Decoder σ α} (hblank : datum.isBlank = false)
    (h : ∀ encoding (buffer : Octets), d.run encoding buffer buffer.size s =
      ⟨.error (.read (.truncated (datum.need encoding) 0)), buffer.size, s⟩) :
    EndsAlike d s [] (datum :: gone) := by
  refine ⟨.error datum, s, ?_, fun encoding front => ?_⟩
  · intro datum' hdatum
    cases hdatum
    rw [List.find?_cons, hblank]
    rfl
  · have hend := h encoding front.toArray
    rw [Datum.writeAll_nil, List.append_nil]
    exact hend

/-- Octets that are none are read at the end of a buffer, too. -/
theorem EndsAlike.blank {next : List UInt8 → Decoder σ α} (h : EndsAlike (next []) s [] gone) :
    EndsAlike (.raw 0 next) s [] (.octets [] :: gone) := by
  obtain ⟨ending, last, hgone, hrun⟩ := h
  refine ⟨ending, last, hgone, fun encoding front => ?_⟩
  have htake := Octets.take_middle front [] []
  rw [List.append_nil] at htake
  rw [Datum.writeAll_nil, run, ← List.length_nil (α := UInt8), htake]
  exact hrun encoding front

/-- A decoder that takes what is left takes the same octets. -/
theorem EndsAlike.rest {next : List UInt8 → Decoder σ α} {update : σ → σ} {value : α}
    {piece : List UInt8} (hnext : next piece = .change update (.done value))
    (hpiece : ∀ encoding, Datum.writeAll encoding there = piece) :
    EndsAlike (.rest next) s there gone := by
  refine ⟨.ok value, update s, nofun, fun encoding front => ?_⟩
  have hafter : Octets.after (front ++ piece).toArray front.length = piece := by
    rw [Octets.after, Array.toList_extract, List.extract_eq_take_drop, List.drop_left,
      List.size_toArray, List.length_append, Nat.add_sub_cancel_left, List.take_length]
  rw [hpiece, run, hafter, hnext, run_change, run_done, List.size_toArray, List.length_append,
    Nat.max_eq_right (Nat.le_add_right _ _)]
  rfl

/-- A decoder that stops at the end of a buffer does so in both encodings. -/
theorem EndsAlike.stops {next : Bool → Decoder σ α} {value : α} (hstop : next true = .done value)
    (hblank : ∀ datum ∈ there, datum.isBlank = true) :
    EndsAlike (.exhausted next) s there gone := by
  refine ⟨.ok value, s, nofun, fun encoding front => ?_⟩
  have hend : front.toArray.size ≤ front.length := Nat.le_refl _
  rw [Datum.writeAll_eq_nil_iff.2 hblank, List.append_nil, run_exhausted_of_le hend, hstop]
  rfl

/-- It goes on in both if anything is written there. -/
theorem EndsAlike.exhausted {next : Bool → Decoder σ α} {value : α}
    (hstop : next true = .done value) (h : EndsAlike (next false) s there gone) :
    EndsAlike (.exhausted next) s there gone := by
  by_cases hblank : ∀ datum ∈ there, datum.isBlank = true
  · exact .stops hstop hblank
  · obtain ⟨ending, last, hgone, hrun⟩ := h
    refine ⟨ending, last, hgone, fun encoding front => ?_⟩
    have hlength : 0 < (Datum.writeAll encoding there).length :=
      List.length_pos_of_ne_nil (mt Datum.writeAll_eq_nil_iff.1 hblank)
    have hleft : front.length < (front ++ Datum.writeAll encoding there).toArray.size := by
      rw [List.size_toArray, List.length_append]
      omega
    rw [run_exhausted_of_lt hleft]
    exact hrun encoding front

/-- **Cut lists.**  A list of data that a decoder goes through, cut anywhere and written in the two
encodings, is read alike. -/
theorem Prescribes.endsAlike {d : Decoder σ α} (h : d.Prescribes s data) (hd : d.Accrues le s)
    (count : Nat) : d.EndsAlike s (data.take count) (data.drop count) := by
  induction h generalizing count with
  | done value s =>
    rw [List.take_nil, List.drop_nil]
    exact .done value s []
  | @field kind next s data value exact fits h ih =>
    cases count with
    | zero =>
      exact .missing rfl fun encoding buffer =>
        run_field_of_error (Field.read_size encoding _ buffer)
    | succ count =>
      exact .cons (d := read kind)
        (fun encoding => .read (Field.reads_write encoding kind exact (fits encoding)) s)
        (ih (hd value) count)
  | @real next s data real h ih =>
    cases count with
    | zero =>
      exact .missing rfl fun encoding buffer =>
        run_field_of_error (Field.read_size encoding _ buffer)
    | succ count =>
      exact .cons (d := read .real) (fun encoding => .read (real.reads encoding) s)
        (ih (hd real.value) count)
  | @octets next s data piece h ih =>
    cases count with
    | zero =>
      cases piece with
      | nil => exact .blank (ih (hd []) 0)
      | cons octet piece =>
        refine .missing rfl fun encoding buffer => ?_
        have hpos : 0 < (octet :: piece).length := Nat.succ_pos _
        rw [run, Octets.take_size buffer hpos]
        rfl
    | succ count =>
      exact .cons (d := Decoder.octets piece.length) (fun encoding => .octets rfl s)
        (ih (hd piece) count)
  | @rest next s piece h ih =>
    obtain ⟨update, value, rfl, -⟩ := hd
    cases count with
    | zero => exact .rest rfl fun encoding => rfl
    | succ count =>
      have hpiece (encoding : Encoding) :
          Datum.writeAll encoding (List.take (count + 1) [.octets piece]) = piece := by
        rw [List.take_succ_cons, List.take_nil]
        exact List.append_nil piece
      exact .rest rfl hpiece
  | goesOn h ih =>
    obtain ⟨⟨value, hstop⟩, hnext⟩ := hd
    exact .exhausted hstop (ih hnext count)
  | @stops next s h ih =>
    obtain ⟨⟨value, hstop⟩, hnext⟩ := hd
    rw [List.take_nil]
    exact .stops hstop fun _ hdatum => absurd hdatum List.not_mem_nil
  | look h ih =>
    obtain ⟨ending, last, hgone, hrun⟩ := ih hd count
    exact ⟨ending, last, hgone, hrun⟩
  | change h ih =>
    obtain ⟨ending, last, hgone, hrun⟩ := ih hd.2 count
    exact ⟨ending, last, hgone, hrun⟩

end Decoder
end GameBox
