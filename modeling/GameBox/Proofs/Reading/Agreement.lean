import GameBox.Proofs.Reading.Decoder

/-!
# Buffers that agree

A decoder does not look back.  What it finds at a position and behind it depends on the octets from
there on and on the size of the buffer, and on nothing else; so it does the same on two buffers that
agree there.  This holds of every decoder and of every outcome.  The errors name positions and
counts of octets that are left, and these are the same as well.

* `Octets.AgreeFrom`, `Octets.AgreeOutside`: buffers of one size that agree from a position on, and
  outside a block.
* `Field.read_eq_of_agreeFrom`: single reads.
* `Decoder.run_eq_of_agreeFrom`: decoders, by induction on the tree.  A read moves the position
  forward, so that the buffers agree at the next one, too.
-/

namespace GameBox

variable {data data' : Octets} {start stop pos next : Nat}

namespace Octets

/-- Buffers of one size with the same octets from a position on. -/
structure AgreeFrom (start : Nat) (data data' : Octets) : Prop where
  size : data.size = data'.size
  getElem? : ∀ i, start ≤ i → data[i]? = data'[i]?

/-- Buffers of one size with the same octets in front of a block and behind it. -/
structure AgreeOutside (start stop : Nat) (data data' : Octets) : Prop where
  size : data.size = data'.size
  before : ∀ i, i < start → data[i]? = data'[i]?
  behind : ∀ i, stop ≤ i → data[i]? = data'[i]?

theorem AgreeOutside.agreeFrom (h : AgreeOutside start stop data data') :
    AgreeFrom stop data data' :=
  ⟨h.size, h.behind⟩

/-- Buffers that agree outside an empty block are the same. -/
theorem AgreeOutside.eq_of_le (h : AgreeOutside start stop data data') (hempty : stop ≤ start) :
    data = data' := by
  refine Array.ext_getElem? fun i => ?_
  by_cases hi : i < start
  · exact h.before i hi
  · exact h.behind i (by omega)

/-- Another octet in the block changes nothing outside. -/
theorem agreeOutside_set {place : Nat} (hstart : start ≤ place) (hstop : place < stop)
    (data : Octets) (octet : UInt8) :
    AgreeOutside start stop data (data.setIfInBounds place octet) := by
  refine ⟨Array.size_setIfInBounds.symm, fun i hi => ?_, fun i hi => ?_⟩
  · rw [Array.getElem?_setIfInBounds_ne (by omega)]
  · rw [Array.getElem?_setIfInBounds_ne (by omega)]

theorem extract_eq_of_before (h : ∀ i, i < stop → data[i]? = data'[i]?) :
    data.extract 0 stop = data'.extract 0 stop := by
  refine Array.ext_getElem? fun i => ?_
  have hzero : ∀ data : Octets,
      (data.extract 0 stop)[i]? = if i < stop then data[i]? else none := by
    intro data
    rw [Array.getElem?_extract, Nat.zero_add, Nat.sub_zero]
    by_cases hi : i < stop
    · by_cases hsize : i < data.size
      · rw [if_pos (by omega), if_pos hi]
      · rw [if_neg (by omega), if_pos hi, Array.getElem?_eq_none (by omega)]
    · rw [if_neg (by omega), if_neg hi]
  rw [hzero, hzero]
  by_cases hi : i < stop
  · rw [if_pos hi, if_pos hi, h i hi]
  · rw [if_neg hi, if_neg hi]

namespace AgreeFrom

/-- The pieces of the two buffers behind the position are the same. -/
theorem extract_eq (h : AgreeFrom start data data') (hpos : start ≤ pos) (stop : Nat) :
    data.extract pos stop = data'.extract pos stop := by
  refine Array.ext_getElem? fun i => ?_
  rw [Array.getElem?_extract, Array.getElem?_extract, h.size, h.getElem? (pos + i) (by omega)]

theorem take_eq (h : AgreeFrom start data data') (hpos : start ≤ pos) (count : Nat) :
    data.take count pos = data'.take count pos := by
  simp only [take, slice?, left, h.size, h.extract_eq hpos]

theorem after_eq (h : AgreeFrom start data data') (hpos : start ≤ pos) :
    data.after pos = data'.after pos := by
  rw [after, after, h.size, h.extract_eq hpos]

theorem findReturn?_eq (h : AgreeFrom start data data') (hpos : start ≤ pos) (window : Nat) :
    data.findReturn? window pos = data'.findReturn? window pos := by
  induction window generalizing pos with
  | zero => rfl
  | succ window ih => simp only [findReturn?, h.getElem? pos hpos, ih (Nat.le_succ_of_le hpos)]

theorem line_eq (h : AgreeFrom start data data') (hpos : start ≤ pos) :
    data.line pos = data'.line pos := by
  have hleft : data.left pos = data'.left pos := by rw [left, left, h.size]
  have hfind := h.findReturn?_eq hpos lineLimit
  cases hfound : data'.findReturn? lineLimit pos with
  | none => simp only [line, hfind, hfound, hleft]
  | some length =>
    have hfeed : data[pos + length + 1]? = data'[pos + length + 1]? := h.getElem? _ (by omega)
    simp only [line, hfind, hfound, hleft, hfeed, h.extract_eq hpos]

end AgreeFrom

end Octets

open Octets

namespace Field

variable {encoding : Encoding}

theorem word_eq_of_agreeFrom (h : AgreeFrom start data data') (hpos : start ≤ pos) (width : Nat) :
    word width data pos = word width data' pos := by
  rw [word, word, h.take_eq hpos]

theorem numeral_eq_of_agreeFrom {α : Type} (h : AgreeFrom start data data') (hpos : start ≤ pos)
    (expected : Field) (scan? : List UInt8 → Option α) :
    numeral expected scan? data pos = numeral expected scan? data' pos := by
  rw [numeral, numeral, h.line_eq hpos]

theorem lengthString_eq_of_agreeFrom (h : AgreeFrom start data data') (hpos : start ≤ pos) :
    lengthString data pos = lengthString data' pos := by
  rw [lengthString, lengthString, word_eq_of_agreeFrom h hpos]
  cases hword : word 4 data' pos with
  | mk result next =>
  cases result with
  | error error => rfl
  | ok length =>
    obtain ⟨piece, hspans, -⟩ := isLocal_word 4 hword
    have hnext : start ≤ next := hpos.trans hspans.le
    simp only [h.take_eq hnext]

/-- A field is read from the position on. -/
theorem read_eq_of_agreeFrom (h : AgreeFrom start data data') (hpos : start ≤ pos)
    (encoding : Encoding) (field : Field) :
    field.read encoding data pos = field.read encoding data' pos := by
  cases encoding with
  | binary => cases field with
    | bool | mask | nat8 | nat16 | nat32 | nat64 | integer | real | nat128 | nat256 =>
      exact congrArg (Found.map _) (word_eq_of_agreeFrom h hpos _)
    | string => exact lengthString_eq_of_agreeFrom h hpos
  | text => cases field with
    | bool | string => exact congrArg (Found.map _) (h.line_eq hpos)
    | mask | nat8 | nat16 | nat32 | nat64 | integer | real =>
      exact congrArg (Found.map _) (numeral_eq_of_agreeFrom h hpos _ _)
    | nat128 | nat256 => exact congrArg (Found.map _) (word_eq_of_agreeFrom h hpos _)

end Field

namespace Decoder

variable {σ α : Type} {encoding : Encoding}

/-- A decoder does the same on buffers that agree from its position on. -/
theorem run_eq_of_agreeFrom (h : AgreeFrom start data data') (hpos : start ≤ pos)
    (encoding : Encoding) (d : Decoder σ α) (s : σ) :
    d.run encoding data pos s = d.run encoding data' pos s := by
  induction d generalizing pos s with
  | done value => rfl
  | fail error => rfl
  | field kind next ih =>
    rw [run, run, Field.read_eq_of_agreeFrom h hpos]
    cases hread : kind.read encoding data' pos with
    | mk result middle =>
    cases result with
    | error error => rfl
    | ok value =>
      obtain ⟨piece, hspans, -⟩ := Field.isLocal_read encoding kind hread
      exact ih value (hpos.trans hspans.le) s
  | raw count next ih =>
    rw [run, run, h.take_eq hpos]
    cases htake : data'.take count pos with
    | mk result middle =>
    cases result with
    | error error => rfl
    | ok piece =>
      obtain ⟨hspans, -⟩ := spans_of_take htake
      exact ih piece (hpos.trans hspans.le) s
  | rest next ih =>
    rw [run, run, h.after_eq hpos, h.size]
    exact ih _ (hpos.trans (Nat.le_max_left _ _)) s
  | exhausted next ih =>
    rw [run, run, h.size]
    exact ih _ hpos s
  | position next ih => exact ih pos hpos s
  | look next ih => exact ih s hpos s
  | change update next ih => exact ih hpos (update s)

end Decoder
end GameBox
