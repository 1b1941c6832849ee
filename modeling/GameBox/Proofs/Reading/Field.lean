import GameBox.Decoder
import Mathlib.Data.List.Basic
import Mathlib.Algebra.Order.Ring.Nat

/-!
# What a field is read from

A file is made of parts that are written one after the other, and each part is read from where the
one before it ended.  What a part means does not depend on what stands around it.  Both halves of
this are stated here for single reads.

* `Octets.Spans`: a piece of a buffer and where it stands; `Octets.Spans.append`: two pieces
  behind each other are one.
* `Octets.spans_of_after`: what is left behind a position begins with what stands there.
* `Reader.Reads`: a piece is read as a value wherever it stands, and the read ends at its end.
* `Reader.IsLocal`: what is read successfully is read from such a piece, with `isLocal_take` and
  `isLocal_line` for the two pieces that every read is made of.
* `Field.isLocal_read`: every field of either encoding is read in this way.
-/

namespace GameBox

/-! ## Numbers -/

/-- Octets that are enough for a number denote it. -/
theorem littleEndian_octets (width n : Nat) (h : n < 256 ^ width) :
    littleEndian (octets width n) = n := by
  induction width generalizing n with
  | zero =>
    have hn : n = 0 := by simpa using h
    rw [hn, octets, littleEndian_nil]
  | succ width ih =>
    have hdiv : n / 256 < 256 ^ width := by
      rw [Nat.div_lt_iff_lt_mul (by decide), ← pow_succ]
      exact h
    rw [octets, littleEndian_cons, ih _ hdiv, UInt8.toNat_ofNat']
    omega

/-- Octets denote a number that they have room for. -/
theorem littleEndian_lt (bs : List UInt8) : littleEndian bs < 256 ^ bs.length := by
  induction bs with
  | nil => decide
  | cons b bs ih =>
    have hb := b.toNat_lt
    rw [littleEndian_cons, List.length_cons, pow_succ]
    omega

/-! ## Pieces of a buffer -/

namespace Octets

variable {data : Octets} {count pos middle next : Nat} {piece piece' line back : List UInt8}

/-- The piece stands in the buffer from one position to another. -/
def Spans (data : Octets) (pos next : Nat) (piece : List UInt8) : Prop :=
  ∃ front back, data = (front ++ piece ++ back).toArray ∧ front.length = pos ∧
    next = pos + piece.length

theorem Spans.le (h : data.Spans pos next piece) : pos ≤ next := by
  obtain ⟨front, back, -, -, rfl⟩ := h
  exact Nat.le_add_right _ _

theorem Spans.le_size (h : data.Spans pos next piece) : next ≤ data.size := by
  obtain ⟨front, back, rfl, rfl, rfl⟩ := h
  simp

theorem Spans.eq_add_length (h : data.Spans pos next piece) : next = pos + piece.length := by
  obtain ⟨front, back, -, -, hnext⟩ := h
  exact hnext

/-- What stands at the beginning of a buffer are its first octets. -/
theorem Spans.take_toList (h : data.Spans 0 next piece) : data.toList.take next = piece := by
  obtain ⟨front, back, rfl, hfront, rfl⟩ := h
  obtain rfl := List.eq_nil_of_length_eq_zero hfront
  rw [Nat.zero_add, List.nil_append, List.take_left]

/-- At every position of a buffer stands the empty piece. -/
theorem Spans.nil (h : pos ≤ data.size) : data.Spans pos pos [] := by
  refine ⟨data.toList.take pos, data.toList.drop pos, ?_, ?_, rfl⟩
  · rw [List.append_nil, List.take_append_drop]
  · rw [List.length_take, Array.length_toList]
    omega

/-- Two pieces, the second where the first one ends, are one piece. -/
theorem Spans.append (h : data.Spans pos middle piece) (h' : data.Spans middle next piece') :
    data.Spans pos next (piece ++ piece') := by
  obtain ⟨front, back, rfl, rfl, rfl⟩ := h
  obtain ⟨front', back', hdata, hfront', rfl⟩ := h'
  have hlists : (front ++ piece) ++ back = front' ++ (piece' ++ back') := by
    rw [← List.append_assoc front']
    exact List.toArray_inj hdata
  obtain ⟨rfl, rfl⟩ := List.append_inj hlists (by rw [List.length_append, hfront'])
  exact ⟨front, back', by simp, rfl, by rw [List.length_append, Nat.add_assoc]⟩

/-- A piece that is as long as the buffer is all of it. -/
theorem Spans.eq_of_length {all : List UInt8} (h : Spans all.toArray 0 all.length piece) :
    piece = all := by
  obtain ⟨front, back, hdata, hfront, hlength⟩ := h
  obtain rfl := List.eq_nil_of_length_eq_zero hfront
  have hall : all = piece ++ back := List.toArray_inj hdata
  have hback : back.length = 0 := by
    have hsum := congrArg List.length hall
    rw [List.length_append] at hsum
    omega
  rw [hall, List.eq_nil_of_length_eq_zero hback, List.append_nil]

/-- The middle of a buffer is cut out by its position and its length. -/
theorem extract_middle (front piece back : List UInt8) :
    (front ++ piece ++ back).toArray.extract front.length (front.length + piece.length) =
      piece.toArray := by
  apply Array.toList_inj.1
  rw [Array.toList_extract, List.extract_eq_take_drop, Nat.add_sub_cancel_left, List.append_assoc,
    List.drop_left, List.take_left]

theorem Spans.toList_extract (h : data.Spans pos next piece) :
    (data.extract pos next).toList = piece := by
  obtain ⟨front, back, rfl, rfl, rfl⟩ := h
  rw [extract_middle]

theorem take_middle (front piece back : List UInt8) :
    take (front ++ piece ++ back).toArray piece.length front.length =
      ⟨.ok piece, front.length + piece.length⟩ := by
  have hle : front.length + piece.length ≤ (front ++ piece ++ back).toArray.size := by simp
  rw [take, slice?, if_pos hle, extract_middle]

/-! ### What is left -/

/-- What is left is a part of the list of octets. -/
theorem after_eq_drop (data : Octets) (pos : Nat) : data.after pos = data.toList.drop pos := by
  rw [after, Array.toList_extract, List.extract_eq_take_drop, List.take_of_length_le]
  rw [List.length_drop, Array.length_toList]

theorem length_after (data : Octets) (pos : Nat) : (data.after pos).length = data.left pos := by
  rw [after_eq_drop, List.length_drop, Array.length_toList, left]

theorem getElem?_after (data : Octets) (pos i : Nat) : (data.after pos)[i]? = data[pos + i]? := by
  rw [after_eq_drop, List.getElem?_drop, Array.getElem?_toList]

/-- What the octets behind a position begin with stands at the position. -/
theorem spans_of_after (hpos : pos ≤ data.size) (h : data.after pos = piece ++ back) :
    data.Spans pos (pos + piece.length) piece := by
  refine ⟨data.toList.take pos, back, ?_, ?_, rfl⟩
  · apply Array.toList_inj.1
    rw [List.append_assoc, ← h, after_eq_drop, List.take_append_drop]
  · rw [List.length_take, Array.length_toList, Nat.min_eq_left hpos]

theorem Spans.exists_after (h : data.Spans pos next piece) :
    ∃ back, data.after pos = piece ++ back := by
  obtain ⟨front, back, rfl, rfl, -⟩ := h
  refine ⟨back, ?_⟩
  rw [after_eq_drop, List.append_assoc, List.drop_left]

theorem le_size_of_after_ne_nil (h : data.after pos ≠ []) : pos ≤ data.size := by
  by_contra hpos
  apply h
  rw [after_eq_drop]
  exact List.drop_of_length_le (by rw [Array.length_toList]; omega)

/-! ### The two pieces that every read is made of -/

theorem take_of_le (h : pos + count ≤ data.size) :
    data.take count pos = ⟨.ok ((data.toList.drop pos).take count), pos + count⟩ := by
  rw [take, slice?_eq_some_iff.2 ⟨h, rfl⟩]

theorem take_of_lt (h : data.size < pos + count) :
    data.take count pos = ⟨.error (.truncated count (data.left pos)), pos⟩ := by
  rw [take, slice?, if_neg (Nat.not_le.2 h)]

/-- What was taken stands in the middle of the buffer. -/
theorem spans_of_take (h : data.take count pos = ⟨.ok piece, next⟩) :
    data.Spans pos next piece ∧ piece.length = count := by
  unfold take at h
  split at h
  · rename_i piece' hslice
    simp only [Found.mk.injEq, Except.ok.injEq] at h
    obtain ⟨rfl, rfl⟩ := h
    obtain ⟨hle, hpiece⟩ := slice?_eq_some_iff.1 hslice
    have hlength := length_of_slice? hslice
    have hafter : data.after pos = piece' ++ data.toList.drop (pos + count) := by
      rw [after_eq_drop, hpiece, ← List.drop_drop, List.take_append_drop]
    have hspans := spans_of_after (by omega) hafter
    rw [hlength] at hspans
    exact ⟨hspans, hlength⟩
  · simp at h

theorem next_of_take (h : data.take count pos = ⟨.ok piece, next⟩) : next = pos + count := by
  obtain ⟨⟨front, back, -, -, rfl⟩, rfl⟩ := spans_of_take h
  rfl

/-- What is looked for is the first carriage return, and it must lie in the window. -/
theorem findReturn?_eq_some_iff {window length : Nat} :
    data.findReturn? window pos = some length ↔
      ∃ line back, data.after pos = line ++ 0x0D :: back ∧ line.length = length ∧
        0x0D ∉ line ∧ length < window := by
  induction window generalizing pos length with
  | zero => simp [findReturn?]
  | succ window ih =>
    have hget : data[pos]? = (data.after pos).head? := by
      rw [after_eq_drop, List.head?_drop, Array.getElem?_toList]
    have htail : data.after (pos + 1) = (data.after pos).tail := by
      rw [after_eq_drop, after_eq_drop, List.tail_drop]
    rw [findReturn?, hget]
    cases hafter : data.after pos with
    | nil => simp
    | cons b bs =>
      rw [hafter, List.tail_cons] at htail
      rw [List.head?_cons]
      by_cases hb : b = 0x0D
      · subst hb
        simp only [↓reduceIte, Option.some.injEq]
        constructor
        · rintro rfl
          exact ⟨[], bs, rfl, rfl, by simp, Nat.succ_pos _⟩
        · rintro ⟨line, back, hline, hlength, hreturn, -⟩
          rcases List.cons_eq_append_iff.1 hline with ⟨rfl, -⟩ | ⟨line', rfl, -⟩
          · exact hlength
          · simp at hreturn
      · simp only [hb, ↓reduceIte, Option.map_eq_some_iff, ih, htail]
        constructor
        · rintro ⟨length', ⟨line, back, rfl, hlength, hreturn, hlt⟩, rfl⟩
          refine ⟨b :: line, back, rfl, by rw [List.length_cons, hlength], ?_, by omega⟩
          rw [List.mem_cons, not_or]
          exact ⟨fun h => hb h.symm, hreturn⟩
        · rintro ⟨line, back, hline, hlength, hreturn, hlt⟩
          rcases List.cons_eq_append_iff.1 hline with ⟨-, hhead⟩ | ⟨line', rfl, hbs⟩
          · exact absurd (List.cons.inj hhead).1.symm hb
          · rw [List.length_cons] at hlength
            rw [List.mem_cons, not_or] at hreturn
            exact ⟨line'.length, ⟨line', back, hbs, rfl, hreturn.2, by omega⟩, hlength⟩

theorem findReturn?_eq_none_iff {window : Nat} :
    data.findReturn? window pos = none ↔ 0x0D ∉ (data.after pos).take window := by
  constructor
  · intro hnone hmem
    obtain ⟨line, back, hwindow, hreturn⟩ := List.eq_append_cons_of_mem hmem
    have hlength := congrArg List.length hwindow
    rw [List.length_take, List.length_append, List.length_cons] at hlength
    have hsplit := List.take_append_drop window (data.after pos)
    rw [hwindow, List.append_assoc, List.cons_append] at hsplit
    have hsome : data.findReturn? window pos = some line.length :=
      findReturn?_eq_some_iff.2 ⟨line, _, hsplit.symm, rfl, hreturn, by omega⟩
    rw [hnone] at hsome
    cases hsome
  · intro hnot
    rw [Option.eq_none_iff_forall_ne_some]
    intro length hsome
    obtain ⟨line, back, hafter, rfl, -, hlt⟩ := findReturn?_eq_some_iff.1 hsome
    apply hnot
    rw [hafter, List.take_append, List.take_cons (by omega)]
    exact List.mem_append_right _ List.mem_cons_self

/-- What stands behind the first carriage return. -/
theorem getElem?_behind_return (h : data.after pos = line ++ 0x0D :: back) :
    data[pos + line.length + 1]? = back.head? := by
  rw [Nat.add_assoc, ← getElem?_after, h, List.getElem?_append_right (Nat.le_add_right _ 1),
    Nat.add_sub_cancel_left, List.getElem?_cons_succ, List.head?_eq_getElem?]

/-- The two octets that end a line. -/
def lineEnd : List UInt8 := [0x0D, 0x0A]

/-- A line in the middle of a buffer is taken as it is, and what ends it is passed over. -/
theorem line_middle (front back : List UInt8) (hreturn : 0x0D ∉ line)
    (hlength : line.length < lineLimit) :
    Octets.line (front ++ (line ++ lineEnd) ++ back).toArray front.length =
      ⟨.ok line, front.length + (line ++ lineEnd).length⟩ := by
  have hafter : after (front ++ (line ++ lineEnd) ++ back).toArray front.length =
      line ++ 0x0D :: 0x0A :: back := by
    rw [after_eq_drop, List.append_assoc, List.drop_left]
    simp [lineEnd]
  have hfind := findReturn?_eq_some_iff.2 ⟨line, 0x0A :: back, hafter, rfl, hreturn, hlength⟩
  have hfeed := getElem?_behind_return hafter
  rw [List.head?_cons] at hfeed
  have hpiece := (spans_of_after (by simp) hafter).toList_extract
  simp only [Octets.line, hfind, hfeed, hpiece, ↓reduceIte]
  simp [lineEnd, Nat.add_assoc]

/-- A line whose end lies behind the window is too long. -/
theorem line_of_long (hreturn : 0x0D ∉ line) (hlength : lineLimit ≤ line.length)
    (front back : List UInt8) :
    Octets.line (front ++ line ++ back).toArray front.length =
      ⟨.error (.lineTooLong front.length lineLimit), front.length⟩ := by
  have hnone : findReturn? (front ++ line ++ back).toArray lineLimit front.length = none := by
    rw [findReturn?_eq_none_iff, after_eq_drop, List.append_assoc, List.drop_left,
      List.take_append_of_le_length hlength]
    exact fun hmem => hreturn (List.mem_of_mem_take hmem)
  have hleft : lineLimit ≤ left (front ++ line ++ back).toArray front.length := by
    rw [left, List.size_toArray, List.length_append, List.length_append]
    omega
  simp only [Octets.line, hnone, if_pos hleft]

/-- A line that was taken stands in the middle of the buffer, before what ends it. -/
theorem spans_of_line (h : data.line pos = ⟨.ok line, next⟩) :
    data.Spans pos next (line ++ lineEnd) ∧ 0x0D ∉ line ∧ line.length < lineLimit := by
  unfold Octets.line at h
  cases hfind : data.findReturn? lineLimit pos with
  | none =>
    rw [hfind] at h
    dsimp only at h
    split at h <;> simp at h
  | some length =>
    obtain ⟨found, rest, hafter, rfl, hreturn, hlt⟩ := findReturn?_eq_some_iff.1 hfind
    have hpos : pos ≤ data.size := le_size_of_after_ne_nil (by simp [hafter])
    rw [hfind] at h
    dsimp only at h
    rw [getElem?_behind_return hafter] at h
    cases rest with
    | nil => simp at h
    | cons b back =>
      by_cases hfeed : b = 0x0A
      · subst hfeed
        simp only [List.head?_cons, ↓reduceIte, Found.mk.injEq, Except.ok.injEq,
          (spans_of_after hpos hafter).toList_extract] at h
        obtain ⟨rfl, rfl⟩ := h
        have hwhole : data.after pos = (found ++ lineEnd) ++ back := by simp [hafter, lineEnd]
        have hspans := spans_of_after hpos hwhole
        rw [List.length_append, ← Nat.add_assoc] at hspans
        exact ⟨hspans, hreturn, hlt⟩
      · simp [hfeed] at h

end Octets

/-! ## Single reads -/

/-- Another view of what was found is successful exactly if the read was. -/
theorem Found.map_eq_ok_iff {ε α β : Type} {f : α → β} {found : Found ε α} {result : β}
    {next : Nat} :
    found.map f = ⟨.ok result, next⟩ ↔ ∃ value, found = ⟨.ok value, next⟩ ∧ f value = result := by
  obtain ⟨outcome, next'⟩ := found
  cases outcome <;> simp [map, Except.map, and_comm]

/-- Another view of what was found fails exactly if the read did. -/
theorem Found.map_eq_error_iff {ε α β : Type} {f : α → β} {found : Found ε α} {error : ε}
    {next : Nat} :
    found.map f = ⟨.error error, next⟩ ↔ found = ⟨.error error, next⟩ := by
  obtain ⟨outcome, next'⟩ := found
  cases outcome <;> simp [map, Except.map]

/-- Another view of what was found is a check that refuses nothing. -/
theorem Found.map_eq_check {ε α β : Type} (f : α → β) (found : Found ε α) :
    found.map f = found.check fun value => .ok (f value) := by
  obtain ⟨outcome, next'⟩ := found
  cases outcome <;> rfl

/-- A way to read a value at a position of a buffer. -/
abbrev Reader (α : Type) := Octets → Nat → Found ReadError α

namespace Reader

variable {α β : Type} {read : Reader α} {piece : List UInt8} {value : α}

/-- The piece is read as the value wherever it stands, and the read ends at its end. -/
def Reads (read : Reader α) (piece : List UInt8) (value : α) : Prop :=
  ∀ front back : List UInt8, read (front ++ piece ++ back).toArray front.length =
    ⟨.ok value, front.length + piece.length⟩

/-- Whatever is read successfully is read from a piece of the buffer and depends on nothing
else. -/
def IsLocal (read : Reader α) : Prop :=
  ∀ ⦃data : Octets⦄ ⦃pos next : Nat⦄ ⦃value : α⦄, read data pos = ⟨.ok value, next⟩ →
    ∃ piece, data.Spans pos next piece ∧ Reads read piece value

theorem Reads.of_spans {data : Octets} {pos next : Nat} (h : Reads read piece value)
    (hspans : data.Spans pos next piece) : read data pos = ⟨.ok value, next⟩ := by
  obtain ⟨front, back, rfl, rfl, rfl⟩ := hspans
  exact h front back

theorem Reads.map (h : Reads read piece value) (f : α → β) :
    Reads (fun data pos => (read data pos).map f) piece (f value) := by
  intro front back
  show (read _ _).map f = _
  rw [h front back]
  rfl

theorem Reads.check {f : α → Except ReadError β} {result : β} (h : Reads read piece value)
    (hf : f value = .ok result) : Reads (fun data pos => (read data pos).check f) piece result := by
  intro front back
  show (read _ _).check f = _
  rw [h front back, Found.check]
  simp only [Except.bind, hf]

/-- A check that may refuse what was read, and may change it, leaves a read local. -/
theorem IsLocal.check (h : IsLocal read) (f : α → Except ReadError β) :
    IsLocal fun data pos => (read data pos).check f := by
  intro data pos next result hread
  dsimp only at hread
  cases hfound : read data pos with
  | mk outcome next' =>
    rw [hfound] at hread
    cases outcome with
    | error e => simp [Found.check, Except.bind] at hread
    | ok value =>
      simp only [Found.check, Except.bind, Found.mk.injEq] at hread
      obtain ⟨hf, rfl⟩ := hread
      obtain ⟨piece, hspans, hreads⟩ := h hfound
      exact ⟨piece, hspans, hreads.check hf⟩

theorem IsLocal.map (h : IsLocal read) (f : α → β) :
    IsLocal fun data pos => (read data pos).map f := by
  simp only [Found.map_eq_check]
  exact h.check _

theorem reads_take (piece : List UInt8) :
    Reads (fun data pos => data.take piece.length pos) piece piece :=
  fun front back => Octets.take_middle front piece back

theorem isLocal_take (count : Nat) : IsLocal fun data pos => data.take count pos := by
  intro data pos next piece h
  obtain ⟨hspans, rfl⟩ := Octets.spans_of_take h
  exact ⟨piece, hspans, reads_take piece⟩

theorem isLocal_line : IsLocal fun data pos => data.line pos := by
  intro data pos next line h
  obtain ⟨hspans, hreturn, hlength⟩ := Octets.spans_of_line h
  exact ⟨_, hspans, fun front back => Octets.line_middle front back hreturn hlength⟩

end Reader

namespace Field

open Reader

theorem isLocal_word (width : Nat) : IsLocal (word width) :=
  (isLocal_take width).map littleEndian

theorem isLocal_numeral {α : Type} (expected : Field) (scan? : List UInt8 → Option α) :
    IsLocal (numeral expected scan?) :=
  isLocal_line.check _

/-- A string is read from its length and the octets behind it. -/
theorem isLocal_lengthString : IsLocal lengthString := by
  intro data pos next value h
  unfold lengthString at h
  split at h
  · simp at h
  · rename_i length middle hword
    split at h
    · simp at h
    · rename_i hlimit
      obtain ⟨piece, hspans, hreads⟩ := isLocal_word 4 hword
      obtain ⟨piece', hspans', hreads'⟩ := (isLocal_take length).map Utf8.decode h
      refine ⟨piece ++ piece', hspans.append hspans', ?_⟩
      intro front back
      have hfirst := hreads front (piece' ++ back)
      have hsecond := hreads' (front ++ piece) back
      rw [← List.append_assoc] at hfirst
      rw [List.length_append] at hsecond
      rw [lengthString, ← List.append_assoc front, hfirst]
      simp only [hlimit, ↓reduceIte, hsecond, List.length_append, Nat.add_assoc]

/-- What a field was read from determines it. -/
theorem isLocal_read (encoding : Encoding) (field : Field) : IsLocal (field.read encoding) := by
  cases encoding with
  | binary => cases field with
    | bool | mask | nat8 | nat16 | nat32 | nat64 | integer | real | nat128 | nat256 =>
      exact (isLocal_word _).map _
    | string => exact isLocal_lengthString
  | text => cases field with
    | bool | string => exact isLocal_line.map _
    | mask | nat8 | nat16 | nat32 | nat64 | integer | real =>
      exact (isLocal_numeral _ _).map _
    | nat128 | nat256 => exact (isLocal_word _).map _

/-! ## Words of the binary encoding -/

/-- Whatever a word stands for, it takes the octets of the word. -/
theorem next_of_map_word {α : Type} {width pos next : Nat} {data : Octets} {f : Nat → α} {value : α}
    (h : (word width data pos).map f = ⟨.ok value, next⟩) : next = pos + width := by
  obtain ⟨n, hword, -⟩ := Found.map_eq_ok_iff.1 h
  obtain ⟨piece, htake, -⟩ := Found.map_eq_ok_iff.1 hword
  exact Octets.next_of_take htake

theorem next_of_read_nat32 {value : UInt32} {pos next : Nat} {data : Octets}
    (h : nat32.read .binary data pos = ⟨.ok value, next⟩) : next = pos + 4 :=
  next_of_map_word (f := UInt32.ofNat) h

theorem next_of_read_mask {value : UInt32} {pos next : Nat} {data : Octets}
    (h : mask.read .binary data pos = ⟨.ok value, next⟩) : next = pos + 4 :=
  next_of_map_word (f := UInt32.ofNat) h

section
variable {pos next : Nat} {data : Octets}

theorem read_nat32_of_le (h : pos + 4 ≤ data.size) : nat32.read .binary data pos =
    ⟨.ok (UInt32.ofNat (littleEndian ((data.toList.drop pos).take 4))), pos + 4⟩ := by
  show ((data.take 4 pos).map littleEndian).map UInt32.ofNat = _
  rw [Octets.take_of_le h]
  rfl

theorem read_nat32_of_lt (h : data.size < pos + 4) :
    nat32.read .binary data pos = ⟨.error (.truncated 4 (data.left pos)), pos⟩ := by
  show ((data.take 4 pos).map littleEndian).map UInt32.ofNat = _
  rw [Octets.take_of_lt h]
  rfl

theorem toNat_ofNat_littleEndian {piece : List UInt8} (h : piece.length ≤ 4) :
    (UInt32.ofNat (littleEndian piece)).toNat = littleEndian piece := by
  have hle : 256 ^ piece.length ≤ 256 ^ 4 := Nat.pow_le_pow_right (by decide) h
  exact Nat.mod_eq_of_lt (Nat.lt_of_lt_of_le (littleEndian_lt piece) hle)

/-- Four octets are the octets of the word that they are read as. -/
theorem octets_toNat_ofNat_littleEndian {piece : List UInt8} (h : piece.length = 4) :
    octets 4 (UInt32.ofNat (littleEndian piece)).toNat = piece := by
  rw [toNat_ofNat_littleEndian h.le, ← h, octets_littleEndian]

/-- A word that was read stands in the buffer. -/
theorem spans_of_read_nat32 {value : UInt32} (h : nat32.read .binary data pos = ⟨.ok value, next⟩) :
    data.Spans pos next (octets 4 value.toNat) := by
  obtain ⟨n, hword, rfl⟩ := Found.map_eq_ok_iff.1 h
  obtain ⟨piece, htake, rfl⟩ := Found.map_eq_ok_iff.1 hword
  obtain ⟨hspans, hlength⟩ := Octets.spans_of_take htake
  rw [octets_toNat_ofNat_littleEndian hlength]
  exact hspans

end

theorem reads_word (width n : Nat) (h : n < 256 ^ width) :
    Reads (word width) (octets width n) n := by
  have htake := (reads_take (octets width n)).map littleEndian
  rw [length_octets, littleEndian_octets width n h] at htake
  exact htake

/-- A word of 32 bits that was written is read back. -/
theorem reads_nat32 (value : UInt32) :
    Reads (nat32.read .binary) (octets 4 value.toNat) value := by
  have hword := (reads_word 4 value.toNat value.toNat_lt).map UInt32.ofNat
  rw [UInt32.ofNat_toNat] at hword
  exact hword

theorem reads_mask (value : UInt32) : Reads (mask.read .binary) (octets 4 value.toNat) value :=
  reads_nat32 value

end Field
end GameBox
