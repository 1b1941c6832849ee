import GameBox.Proofs.Reading.Decoder

/-!
# The least that is taken

Counts are read from a file before what they count, so a small file may announce a great deal.  What
it cannot do is to have all of it read: every read takes octets, and a decoder that is made of reads
takes at least as many as they do.

* `Field.leastWidth`: the octets of a field at the least, in either encoding.
* `Decoder.Takes`: a decoder that is made of reads, and what they take together.  Such a decoder
  moves on (`Takes.add_le_of_run`), and it fails only where one of its reads does
  (`Takes.exists_read_of_error`).
-/

namespace GameBox

variable {encoding : Encoding} {data : Octets} {pos next : Nat}

/-! ## Fields -/

namespace Field

/-- The octets that a field takes at the least: those of its word, or those of the shortest line
that holds such a field.  A numeral has a digit. -/
def leastWidth : Encoding → Field → Nat
  | .binary, nat8 => 1
  | .binary, nat16 => 2
  | .binary, bool | .binary, mask | .binary, nat32 | .binary, integer | .binary, real
  | .binary, string => 4
  | .binary, nat64 => 8
  | .text, bool | .text, string => 2
  | .text, mask | .text, nat8 | .text, nat16 | .text, nat32 | .text, nat64 | .text, integer
  | .text, real => 3
  | _, nat128 => 16
  | _, nat256 => 32

theorem next_of_line {line : List UInt8} (h : data.line pos = ⟨.ok line, next⟩) :
    next = pos + line.length + 2 := by
  obtain ⟨⟨front, back, -, rfl, rfl⟩, -⟩ := Octets.spans_of_line h
  rw [List.length_append, Nat.add_assoc]
  rfl

theorem le_of_map_line {α : Type} {f : List UInt8 → α} {value : α}
    (h : (data.line pos).map f = ⟨.ok value, next⟩) : pos + 2 ≤ next := by
  obtain ⟨line, hline, -⟩ := Found.map_eq_ok_iff.1 h
  have hnext := next_of_line hline
  omega

/-- A line that holds a numeral is not empty. -/
theorem le_of_map_numeral {α β : Type} {expected : Field} {scan? : List UInt8 → Option α}
    {f : α → β} {value : β} (hempty : scan? [] = none)
    (h : (numeral expected scan? data pos).map f = ⟨.ok value, next⟩) : pos + 3 ≤ next := by
  obtain ⟨number, hnumeral, -⟩ := Found.map_eq_ok_iff.1 h
  have hnext : (data.line pos).next = next := congrArg Found.next hnumeral
  unfold numeral at hnumeral
  cases hline : data.line pos with
  | mk result finish =>
  rw [hline] at hnumeral hnext
  dsimp only at hnext
  subst hnext
  cases result with
  | error error => cases hnumeral
  | ok line =>
    have hlength := next_of_line hline
    cases line with
    | nil => simp [Found.check, Except.bind, scan, hempty] at hnumeral
    | cons b bs =>
      rw [List.length_cons] at hlength
      omega

theorem le_of_lengthString {text : String} (h : lengthString data pos = ⟨.ok text, next⟩) :
    pos + 4 ≤ next := by
  unfold lengthString at h
  split at h
  · cases h
  · rename_i length middle hword
    obtain ⟨piece, htake, -⟩ := Found.map_eq_ok_iff.1 hword
    have hmiddle := Octets.next_of_take htake
    split at h
    · cases h
    · obtain ⟨piece', htake', -⟩ := Found.map_eq_ok_iff.1 h
      have hnext := Octets.next_of_take htake'
      omega

/-- A field that is read takes no less than its least width. -/
theorem add_leastWidth_le {field : Field} {value : field.Value}
    (h : field.read encoding data pos = ⟨.ok value, next⟩) :
    pos + leastWidth encoding field ≤ next := by
  cases encoding with
  | binary => cases field with
    | bool | mask | nat8 | nat16 | nat32 | nat64 | integer | real | nat128 | nat256 =>
      exact (next_of_map_word h).ge
    | string => exact le_of_lengthString h
  | text => cases field with
    | bool | string => exact le_of_map_line h
    | mask | nat8 | nat16 | nat32 | nat64 | integer | real => exact le_of_map_numeral rfl h
    | nat128 | nat256 => exact (next_of_map_word h).ge

end Field

/-! ## Decoders -/

namespace Decoder

variable {σ α β : Type} {width width' : Nat} {s s' : σ} {value : α} {error : DecodeError}

/-- The decoder is made of reads of fields only, and takes so many octets at the least. -/
inductive Takes (encoding : Encoding) : (width : Nat) → Decoder σ α → Prop
  | done (value : α) : Takes encoding 0 (.done value)
  | field {width rest : Nat} (kind : Field) {next : kind.Value → Decoder σ α}
    (hwidth : width ≤ kind.leastWidth encoding + rest)
    (h : ∀ value, Takes encoding rest (next value)) :
    Takes encoding width (.field kind next)

theorem takes_read (encoding : Encoding) (kind : Field) :
    Takes encoding (kind.leastWidth encoding) (read kind : Decoder σ kind.Value) :=
  .field kind (Nat.le_refl _) .done

theorem Takes.bind {d : Decoder σ α} {f : α → Decoder σ β} (hd : d.Takes encoding width)
    (hf : ∀ value, (f value).Takes encoding width') :
    (d.bind f).Takes encoding (width + width') := by
  induction hd with
  | done value =>
    rw [Nat.zero_add]
    exact hf value
  | field kind hwidth _ ih => exact .field kind (by omega) ih

theorem Takes.times {d : Decoder σ α} (hd : d.Takes encoding width) (count : Nat) :
    (d.times count).Takes encoding (width * count) := by
  suffices hafter : ∀ earlier, (d.timesAfter count earlier).Takes encoding (width * count) from
    hafter []
  induction count with
  | zero => exact fun earlier => .done _
  | succ count ih =>
    intro earlier
    rw [Nat.mul_succ, Nat.add_comm]
    exact hd.bind fun value => ih (value :: earlier)

theorem Takes.add_le_of_run {d : Decoder σ α} (hd : d.Takes encoding width)
    (h : d.run encoding data pos s = ⟨.ok value, next, s'⟩) : pos + width ≤ next := by
  induction hd generalizing pos with
  | done value' => exact (pure_of_run h).2.1.le
  | @field width rest kind follow hwidth _ ih =>
    obtain ⟨value', middle, s₁, hread, hrest⟩ := exists_run_of_bind (d := read kind) (f := follow) h
    obtain ⟨hfield, rfl⟩ := read_of_run hread
    have hmiddle := Field.add_leastWidth_le hfield
    have hnext := ih value' hrest
    omega

/-- A decoder that is made of reads fails where one of them does. -/
theorem Takes.exists_read_of_error {d : Decoder σ α} (hd : d.Takes encoding width)
    (h : (d.run encoding data pos s).result = .error error) : ∃ cause, error = .read cause := by
  induction hd generalizing pos with
  | done value => cases h
  | field kind _ _ ih =>
    rw [run] at h
    split at h
    · exact ih _ h
    · cases h
      exact ⟨_, rfl⟩

end Decoder

end GameBox
