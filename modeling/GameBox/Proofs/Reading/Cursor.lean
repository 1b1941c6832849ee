import GameBox.Cursor.Request
import GameBox.Proofs.Reading.Decimal
import GameBox.Proofs.Reading.LineEnd
import GameBox.Proofs.Reading.Width

/-!
# Cursors move forward

Whatever a client asks a cursor for, and whether it is given it or not, the cursor does not move
back, and from a position within the buffer it does not leave the buffer.  One answer is looked at
first.

* A request that is answered moves the cursor over some octets of the buffer, and these octets alone
  decide on the answer (`Cursor.Fulfils`).  The same octets in another buffer or at another position
  give the same answer.
* A request that fails leaves the cursor where it was, with two exceptions: a line that does not
  hold the numeral that was asked for is passed over, and so is the length in front of a string
  (`Cursor.Leaves`).

What holds of several requests follows from this, by induction on the list of them.

* `Cursor.Onward`: a cursor behind another one, in the same buffer.
* `Cursor.moves_forward`: both kinds of answers, and any number of requests.
-/

namespace GameBox

variable {data : Octets} {pos next : Nat}

/-! ## Single reads -/

theorem Found.map_check {ε α β γ : Type} (g : α → Except ε β) (f : β → γ) (found : Found ε α) :
    (found.check g).map f = found.check fun value => (g value).map f := by
  obtain ⟨outcome, next'⟩ := found
  cases outcome <;> rfl

namespace Reader

variable {α β : Type} {read : Reader α} {piece : List UInt8} {value : α}

/-- A read that fails leaves the position. -/
def Stays (read : Reader α) : Prop :=
  ∀ ⦃data : Octets⦄ ⦃pos next : Nat⦄ ⦃error : ReadError⦄, read data pos = ⟨.error error, next⟩ →
    next = pos

theorem Stays.map (h : Stays read) (f : α → β) : Stays fun data pos => (read data pos).map f :=
  fun _ _ _ _ hmap => h (Found.map_eq_error_iff.1 hmap)

theorem stays_take (count : Nat) : Stays fun data pos => data.take count pos := by
  intro data pos next error h
  dsimp only at h
  by_cases hsize : pos + count ≤ data.size
  · rw [Octets.take_of_le hsize] at h
    cases h
  · rw [Octets.take_of_lt (Nat.lt_of_not_le hsize)] at h
    cases h
    rfl

theorem stays_line : Stays fun data pos => data.line pos :=
  fun _ _ _ _ h => Octets.next_of_line_eq_error h

end Reader

/-! ## Fields -/

namespace Field

open Reader

variable {error : ReadError}

/-- Whether text files write a field as a line. -/
def isLine : Field → Bool
  | nat128 | nat256 => false
  | _ => true

theorem leastWidth_pos (encoding : Encoding) (field : Field) : 0 < leastWidth encoding field := by
  cases encoding <;> cases field <;> decide

theorem stays_word (width : Nat) : Stays (word width) :=
  (stays_take width).map littleEndian

theorem stays_readBinary {kind : Field} (hstring : kind ≠ .string) : Stays (kind.read .binary) := by
  cases kind with
  | string => exact absurd rfl hstring
  | bool | mask | nat8 | nat16 | nat32 | nat64 | integer | real | nat128 | nat256 =>
    exact (stays_word _).map _

theorem stays_readText {kind : Field} (hline : kind.isLine = false) : Stays (kind.read .text) := by
  cases kind with
  | nat128 | nat256 => exact (stays_word _).map _
  | bool | mask | nat8 | nat16 | nat32 | nat64 | integer | real | string => cases hline

/-- A string that fails is left behind its length, if there is a length. -/
theorem next_of_lengthString_eq_error (h : lengthString data pos = ⟨.error error, next⟩) :
    next = if pos + 4 ≤ data.size then pos + 4 else pos := by
  by_cases hsize : pos + 4 ≤ data.size
  · rw [if_pos hsize]
    have hword : word 4 data pos =
        ⟨.ok (littleEndian ((data.toList.drop pos).take 4)), pos + 4⟩ := by
      rw [word, Octets.take_of_le hsize]
      rfl
    rw [lengthString, hword] at h
    dsimp only at h
    split at h
    · cases h
      rfl
    · exact (stays_take _).map _ h
  · rw [if_neg hsize]
    have hword : word 4 data pos = ⟨.error (.truncated 4 (data.left pos)), pos⟩ := by
      rw [word, Octets.take_of_lt (Nat.lt_of_not_le hsize)]
      rfl
    rw [lengthString, hword] at h
    cases h
    rfl

/-- The error of a line without the numeral that was asked for. -/
theorem error_of_map_scan {α β : Type} {expected : Field} {scan? : List UInt8 → Option α}
    {f : α → β} {line : List UInt8} (h : (expected.scan scan? line).map f = .error error) :
    error = .invalidText expected (Utf8.decode line) := by
  cases hscan : expected.scan scan? line with
  | ok value =>
    rw [hscan] at h
    cases h
  | error error' =>
    rw [hscan] at h
    cases h
    exact (scan_eq_error_iff.1 hscan).1

/-- A field that is a line is read from what the line holds, and its own error shows the line. -/
theorem exists_parse {kind : Field} (hline : kind.isLine = true) :
    ∃ parse : List UInt8 → Except ReadError kind.Value,
      (∀ data pos, kind.read .text data pos = (data.line pos).check parse) ∧
        ∀ line error, parse line = .error error → error = .invalidText kind (Utf8.decode line) := by
  cases kind with
  | bool | string =>
    exact ⟨_, fun data pos => Found.map_eq_check _ (data.line pos), fun _ _ h => by cases h⟩
  | mask | nat8 | nat16 | nat32 | nat64 | integer | real =>
    exact ⟨_, fun data pos => Found.map_check _ _ (data.line pos), fun _ _ => error_of_map_scan⟩
  | nat128 | nat256 => cases hline

/-- A line that fails is passed over if there is a line, and otherwise the position stays. -/
theorem line_of_readText_eq_error {kind : Field} (hline : kind.isLine = true)
    (h : kind.read .text data pos = ⟨.error error, next⟩) :
    (∃ text, data.HoldsLine pos next text ∧ error = .invalidText kind (Utf8.decode text)) ∨
      next = pos ∧ ∀ text finish, ¬data.HoldsLine pos finish text := by
  obtain ⟨parse, hread, hparse⟩ := exists_parse hline
  rw [hread] at h
  cases hfound : data.line pos with
  | mk result finish =>
  rw [hfound] at h
  cases result with
  | ok text =>
    rw [Found.check, Found.mk.injEq] at h
    obtain ⟨herror, rfl⟩ := h
    exact .inl ⟨text, Octets.line_eq_ok_iff.1 hfound, hparse text error herror⟩
  | error error' =>
    cases h
    refine .inr ⟨Octets.next_of_line_eq_error hfound, fun text finish hheld => ?_⟩
    rw [Octets.line_eq_ok_iff.2 hheld] at hfound
    cases hfound

end Field

/-! ## Requests -/

namespace Cursor

variable {cursor cursor' : Cursor} {request : Request} {error : ReadError}

theorem Request.isLocal_read (encoding : Encoding) (request : Request) :
    Reader.IsLocal (request.read encoding) := by
  cases request with
  | field kind => exact Field.isLocal_read encoding kind
  | take count => exact Reader.isLocal_take count
  | line => exact Reader.isLocal_line

/-- Only a request for no octets at all leaves the position when it is answered. -/
theorem Request.next_eq_iff {encoding : Encoding} {value : request.Value}
    (h : request.read encoding data pos = ⟨.ok value, next⟩) :
    next = pos ↔ request = .take 0 := by
  cases request with
  | field kind =>
    have hnext := Field.add_leastWidth_le h
    have hwidth := Field.leastWidth_pos encoding kind
    refine ⟨fun hstill => absurd hnext (by omega), fun hrequest => by cases hrequest⟩
  | take count =>
    have hnext := Octets.next_of_take h
    rw [Request.take.injEq]
    omega
  | line =>
    have hnext := Field.next_of_line h
    refine ⟨fun hstill => absurd hnext (by omega), fun hrequest => by cases hrequest⟩

theorem read_of_answer {result : Except ReadError request.Value}
    (h : cursor.answer request = (result, cursor')) :
    request.read cursor.encoding cursor.data cursor.pos = ⟨result, cursor'.pos⟩ := by
  rw [answer_eq_follow, follow] at h
  cases h
  rfl

/-- A request was answered with a value, and the cursor moved to a position. -/
structure Fulfils (cursor : Cursor) (request : Request) (value : request.Value) (next : Nat) :
    Prop where
  forward : cursor.pos ≤ next
  within : next ≤ cursor.data.size
  /-- The cursor does move, unless no octets were asked for. -/
  still_iff : next = cursor.pos ↔ request = .take 0
  /-- Wherever the octets that were passed over stand in a buffer, the request is answered there
  with the same value, and the cursor moves over them. -/
  again : ∀ (other : Cursor) (finish : Nat), other.encoding = cursor.encoding →
    other.data.Spans other.pos finish (cursor.data.extract cursor.pos next).toList →
    other.answer request = (.ok value, other.seek finish)

/-- In a text file a field is wanted that is a line, and a line is found. -/
def FindsLine (cursor : Cursor) : Request → Nat → List UInt8 → Prop
  | .field kind, next, text =>
    cursor.encoding = .text ∧ kind.isLine = true ∧ cursor.data.HoldsLine cursor.pos next text
  | .take _, _, _ | .line, _, _ => False

/-- In a binary file a string is wanted, and there is room for its length. -/
def FindsLength (cursor : Cursor) (request : Request) : Prop :=
  cursor.encoding = .binary ∧ request = .field .string ∧ cursor.pos + 4 ≤ cursor.data.size

/-- Where a request that failed leaves a cursor. -/
inductive Leaves (cursor : Cursor) : Request → ReadError → Nat → Prop
  /-- The line was found, but it does not hold what was asked for. -/
  | behindLine {kind : Field} {text : List UInt8} {next : Nat}
    (h : cursor.FindsLine (.field kind) next text) :
    Leaves cursor (.field kind) (.invalidText kind (Utf8.decode text)) next
  | behindLength {request : Request} {error : ReadError} (h : cursor.FindsLength request) :
    Leaves cursor request error (cursor.pos + 4)
  | still {request : Request} {error : ReadError}
    (noLine : ∀ next text, ¬cursor.FindsLine request next text)
    (noLength : ¬cursor.FindsLength request) :
    Leaves cursor request error cursor.pos

theorem fulfils_of_answer {value : request.Value}
    (h : cursor.answer request = (.ok value, cursor')) :
    cursor.Fulfils request value cursor'.pos := by
  have hread := read_of_answer h
  obtain ⟨piece, hspans, hreads⟩ := Request.isLocal_read cursor.encoding request hread
  refine ⟨hspans.le, hspans.le_size, Request.next_eq_iff hread, ?_⟩
  intro other finish hencoding hother
  rw [hspans.toList_extract] at hother
  rw [answer_eq_follow, hencoding, hreads.of_spans hother]
  rfl

theorem leaves_of_readBinary {kind : Field} (hencoding : cursor.encoding = .binary)
    (h : kind.read .binary cursor.data cursor.pos = ⟨.error error, next⟩) :
    cursor.Leaves (.field kind) error next := by
  have hnoLine : ∀ next text, ¬cursor.FindsLine (.field kind) next text := by
    rintro next text ⟨htext, -, -⟩
    rw [hencoding] at htext
    cases htext
  by_cases hfinds : cursor.FindsLength (.field kind)
  · obtain rfl : kind = .string := Request.field.inj hfinds.2.1
    rw [Field.next_of_lengthString_eq_error h, if_pos hfinds.2.2]
    exact .behindLength hfinds
  · have hnext : next = cursor.pos := by
      by_cases hstring : kind = .string
      · subst hstring
        have hsize : ¬cursor.pos + 4 ≤ cursor.data.size := fun hle =>
          hfinds ⟨hencoding, rfl, hle⟩
        rw [Field.next_of_lengthString_eq_error h, if_neg hsize]
      · exact Field.stays_readBinary hstring h
    rw [hnext]
    exact .still hnoLine hfinds

theorem leaves_of_readText {kind : Field} (hencoding : cursor.encoding = .text)
    (h : kind.read .text cursor.data cursor.pos = ⟨.error error, next⟩) :
    cursor.Leaves (.field kind) error next := by
  have hnoLength : ¬cursor.FindsLength (.field kind) := by
    rintro ⟨hbinary, -, -⟩
    rw [hencoding] at hbinary
    cases hbinary
  cases hline : kind.isLine with
  | true =>
    rcases Field.line_of_readText_eq_error hline h with ⟨text, hheld, rfl⟩ | ⟨rfl, hnone⟩
    · exact .behindLine ⟨hencoding, hline, hheld⟩
    · exact .still (fun finish text hfinds => hnone text finish hfinds.2.2) hnoLength
  | false =>
    have hnoLine : ∀ next text, ¬cursor.FindsLine (.field kind) next text := by
      rintro next text ⟨-, hkind, -⟩
      rw [hline] at hkind
      cases hkind
    rw [Field.stays_readText hline h]
    exact .still hnoLine hnoLength

theorem leaves_of_answer (h : cursor.answer request = (.error error, cursor')) :
    cursor.Leaves request error cursor'.pos := by
  have hread := read_of_answer h
  cases request with
  | field kind =>
    cases hencoding : cursor.encoding with
    | binary =>
      rw [hencoding] at hread
      exact leaves_of_readBinary hencoding hread
    | text =>
      rw [hencoding] at hread
      exact leaves_of_readText hencoding hread
  | take count =>
    rw [Reader.stays_take count hread]
    exact .still (fun _ _ hfinds => hfinds) (fun hfinds => by cases hfinds.2.1)
  | line =>
    rw [Reader.stays_line hread]
    exact .still (fun _ _ hfinds => hfinds) (fun hfinds => by cases hfinds.2.1)

/-! ## Several requests -/

/-- A cursor stands behind another one in the same buffer, and within it, unless the other one stood
past the end and it has not moved. -/
structure Onward (cursor cursor' : Cursor) : Prop where
  data : cursor'.data = cursor.data
  forward : cursor.pos ≤ cursor'.pos
  within : cursor'.pos ≤ max cursor.pos cursor.data.size

theorem Onward.trans {cursor'' : Cursor} (h : cursor.Onward cursor')
    (h' : cursor'.Onward cursor'') : cursor.Onward cursor'' := by
  refine ⟨h'.data.trans h.data, h.forward.trans h'.forward, h'.within.trans ?_⟩
  rw [h.data]
  exact max_le h.within (Nat.le_max_right _ _)

instance : IsTrans Cursor Onward := ⟨fun _ _ _ => Onward.trans⟩

theorem Fulfils.onward {value : request.Value} (h : cursor.Fulfils request value next) :
    cursor.Onward (cursor.seek next) :=
  ⟨rfl, h.forward, h.within.trans (Nat.le_max_right _ _)⟩

theorem Leaves.onward (h : cursor.Leaves request error next) :
    cursor.Onward (cursor.seek next) := by
  cases h with
  | behindLine hfinds =>
    have hspans := hfinds.2.2.spans
    exact ⟨rfl, hspans.le, hspans.le_size.trans (Nat.le_max_right _ _)⟩
  | behindLength hfinds =>
    exact ⟨rfl, Nat.le_add_right _ _, hfinds.2.2.trans (Nat.le_max_right _ _)⟩
  | still => exact ⟨rfl, Nat.le_refl _, Nat.le_max_left _ _⟩

/-- An answer takes a cursor onward, whether the request failed or not. -/
theorem onward_answer (cursor : Cursor) (request : Request) :
    cursor.Onward (cursor.answer request).2 := by
  have hseek : (cursor.answer request).2 = cursor.seek (cursor.answer request).2.pos := by
    rw [answer_eq_follow]
    rfl
  rw [hseek]
  cases hanswer : cursor.answer request with
  | mk result cursor' =>
  cases result with
  | ok value => exact (fulfils_of_answer hanswer).onward
  | error error => exact (leaves_of_answer hanswer).onward

/-- Each request of a list takes the cursor onward. -/
theorem isChain_trail (cursor : Cursor) (requests : List (Encoding × Request)) :
    (cursor :: cursor.trail requests).IsChain Onward := by
  induction requests generalizing cursor with
  | nil => exact List.IsChain.singleton cursor
  | cons step requests ih =>
    obtain ⟨encoding, request⟩ := step
    -- Another encoding changes neither the buffer nor the position.
    obtain ⟨hdata, hforward, hwithin⟩ := onward_answer (cursor.withEncoding encoding) request
    exact List.isChain_cons_cons.2 ⟨⟨hdata, hforward, hwithin⟩, ih _⟩

/-- **Cursors move forward.**  A request that is answered moves the cursor over octets of the
buffer, and the answer depends on nothing but these octets and the encoding.  A request that fails
leaves the cursor where it was, or behind a line that does not hold what was asked for, or behind
the length of a string.  So no list of requests, whatever becomes of them, takes a cursor back, or
from a position within the buffer past its end. -/
theorem moves_forward (cursor : Cursor) :
    (∀ request value cursor', cursor.answer request = (.ok value, cursor') →
      cursor.Fulfils request value cursor'.pos) ∧
    (∀ request error cursor', cursor.answer request = (.error error, cursor') →
      cursor.Leaves request error cursor'.pos) ∧
    ∀ requests, (cursor :: cursor.trail requests).Pairwise Onward :=
  ⟨fun _ _ _ h => fulfils_of_answer h, fun _ _ _ h => leaves_of_answer h,
    fun requests => (isChain_trail cursor requests).pairwise⟩

/-- Two lines of a text file, the first one with a number of more than eight bits. -/
def twoNumbers : Cursor :=
  ⟨#[0x33, 0x30, 0x30, 0x0D, 0x0A, 0x31, 0x32, 0x0D, 0x0A], .text, 0⟩

/-- The number that does not fit is passed over, and the next one is read. -/
theorem moves_forward_twoNumbers :
    (twoNumbers.answer (.field .nat8) =
        (.error (.invalidText .nat8 "300"), twoNumbers.seek 5) ∧
      twoNumbers.Leaves (.field .nat8) (.invalidText .nat8 "300") 5) ∧
    (twoNumbers.seek 5).answer (.field .nat8) = (.ok 12, twoNumbers.seek 9) ∧
      (twoNumbers.seek 5).Fulfils (.field .nat8) (12 : UInt8) 9 := by
  have hfirst : twoNumbers.answer (.field .nat8) =
      (.error (.invalidText .nat8 "300"), twoNumbers.seek 5) := rfl
  have hsecond : (twoNumbers.seek 5).answer (.field .nat8) = (.ok 12, twoNumbers.seek 9) := rfl
  exact ⟨⟨hfirst, (moves_forward twoNumbers).2.1 _ _ _ hfirst⟩, hsecond,
    (moves_forward (twoNumbers.seek 5)).1 _ _ _ hsecond⟩

end Cursor
end GameBox
