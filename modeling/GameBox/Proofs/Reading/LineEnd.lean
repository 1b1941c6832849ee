import GameBox.Proofs.Reading.Extension
import Mathlib.Order.Bounds.Basic

/-!
# Where a line ends

A line is read up to the first carriage return, which must stand among the next
`Octets.lineLimit` octets and in front of a line feed.  So there are four things that may stand at a
position where a line is wanted, and each has its own outcome:

* a line, which is read (`HoldsLine`);
* a carriage return without a line feed (`HasBareReturn`);
* more octets than a line may have, and no carriage return (`IsUnending`);
* a line that the end of the buffer cuts off, in front of the two octets that end it or between them
  (`HoldsCutLine`).

The last one can be told from the others without looking at the octets: it is the one in which more
octets behind the buffer may lead to a line (`IsCompletable`).  A file that is cut off is therefore
never reported as one that is wrong, nor the other way round.

* `Octets.lineCase_line`: one of the four stands at every position, with its outcome.
* `Octets.line_read_exactly`: when a line is read, and what each of the errors says of the buffer.
-/

namespace GameBox
namespace Octets

variable {data more : Octets} {pos next place needed available : Nat}
variable {text line back : List UInt8}

/-! ## What may stand where a line is wanted -/

/-- A line stands in the buffer from one position to another, and is short enough to be found. -/
structure HoldsLine (data : Octets) (pos next : Nat) (text : List UInt8) : Prop where
  spans : data.Spans pos next (text ++ lineEnd)
  oneLine : 0x0D ∉ text
  short : text.length < lineLimit

/-- The first carriage return of the window stands at a place of the buffer, and another octet than
a line feed stands behind it. -/
def HasBareReturn (data : Octets) (pos place : Nat) : Prop :=
  ∃ line b back, data.after pos = line ++ 0x0D :: b :: back ∧ 0x0D ∉ line ∧
    line.length < lineLimit ∧ b ≠ 0x0A ∧ place = pos + line.length

/-- There are octets enough for the longest line, and no carriage return is among them. -/
def IsUnending (data : Octets) (pos : Nat) : Prop :=
  lineLimit ≤ data.left pos ∧ 0x0D ∉ (data.after pos).take lineLimit

/-- What is left is a line without the octets that end it, or without the last one of them. -/
structure HoldsCutLine (data : Octets) (pos : Nat) (line : List UInt8) : Prop where
  after_eq : data.after pos = line ∨ data.after pos = line ++ [0x0D]
  oneLine : 0x0D ∉ line
  short : line.length < lineLimit

/-- With more octets behind the buffer there may be a line. -/
def IsCompletable (data : Octets) (pos : Nat) : Prop :=
  ∃ more text next, (data ++ more).line pos = ⟨.ok text, next⟩

/-- What reading a line finds in each of the four cases. -/
inductive LineCase (data : Octets) (pos : Nat) : Found ReadError (List UInt8) → Prop
  | line {text : List UInt8} {next : Nat} (h : data.HoldsLine pos next text) :
    LineCase data pos ⟨.ok text, next⟩
  | bareReturn {place : Nat} (h : data.HasBareReturn pos place) :
    LineCase data pos ⟨.error (.badLineTerminator place), pos⟩
  | unending (h : data.IsUnending pos) :
    LineCase data pos ⟨.error (.lineTooLong pos lineLimit), pos⟩
  | cut {line : List UInt8} (h : data.HoldsCutLine pos line) :
    LineCase data pos ⟨.error (.truncated (line.length + 2) (data.left pos)), pos⟩

/-! ## The outcome in each case -/

theorem line_eq_ok_iff : data.line pos = ⟨.ok text, next⟩ ↔ data.HoldsLine pos next text := by
  constructor
  · intro h
    obtain ⟨hspans, hreturn, hlength⟩ := spans_of_line h
    exact ⟨hspans, hreturn, hlength⟩
  · rintro ⟨⟨front, back, rfl, rfl, rfl⟩, hreturn, hlength⟩
    exact line_middle front back hreturn hlength

theorem HasBareReturn.line_eq (h : data.HasBareReturn pos place) :
    data.line pos = ⟨.error (.badLineTerminator place), pos⟩ := by
  obtain ⟨line, b, back, hafter, hreturn, hshort, hfeed, rfl⟩ := h
  have hfind := findReturn?_eq_some_iff.2 ⟨line, _, hafter, rfl, hreturn, hshort⟩
  have hbehind := getElem?_behind_return hafter
  rw [List.head?_cons] at hbehind
  simp only [Octets.line, hfind, hbehind, if_neg hfeed]

theorem IsUnending.line_eq (h : data.IsUnending pos) :
    data.line pos = ⟨.error (.lineTooLong pos lineLimit), pos⟩ := by
  have hfind := findReturn?_eq_none_iff.2 h.2
  simp only [Octets.line, hfind, if_pos h.1]

theorem HoldsCutLine.line_eq (h : data.HoldsCutLine pos line) :
    data.line pos = ⟨.error (.truncated (line.length + 2) (data.left pos)), pos⟩ := by
  obtain ⟨hafter | hafter, hreturn, hshort⟩ := h
  · have hleft : data.left pos = line.length := by rw [← length_after, hafter]
    have hfind : data.findReturn? lineLimit pos = none := by
      rw [findReturn?_eq_none_iff, hafter]
      exact fun hmem => hreturn (List.mem_of_mem_take hmem)
    simp only [Octets.line, hfind, hleft, if_neg (Nat.not_le.2 hshort)]
  · have hfind := findReturn?_eq_some_iff.2 ⟨line, _, hafter, rfl, hreturn, hshort⟩
    have hbehind := getElem?_behind_return hafter
    rw [List.head?_nil] at hbehind
    simp only [Octets.line, hfind, hbehind]

/-- Wherever a line is wanted, one of the four cases holds. -/
theorem lineCase_line (data : Octets) (pos : Nat) : data.LineCase pos (data.line pos) := by
  by_cases hwindow : 0x0D ∈ (data.after pos).take lineLimit
  · obtain ⟨line, rest, htake, hreturn⟩ := List.eq_append_cons_of_mem hwindow
    have hlength := congrArg List.length htake
    rw [List.length_take, List.length_append, List.length_cons] at hlength
    have hshort : line.length < lineLimit := by omega
    have hafter := List.take_append_drop lineLimit (data.after pos)
    rw [htake, List.append_assoc, List.cons_append] at hafter
    -- The octet behind the carriage return decides.
    cases hback : rest ++ (data.after pos).drop lineLimit with
    | nil =>
      rw [hback] at hafter
      have hcut : data.HoldsCutLine pos line := ⟨.inr hafter.symm, hreturn, hshort⟩
      rw [hcut.line_eq]
      exact .cut hcut
    | cons b back =>
      rw [hback] at hafter
      by_cases hfeed : b = 0x0A
      · subst hfeed
        have hne : data.after pos ≠ [] := by simp [← hafter]
        have hwhole : data.after pos = (line ++ lineEnd) ++ back := by simp [← hafter, lineEnd]
        have hspans := spans_of_after (le_size_of_after_ne_nil hne) hwhole
        have hheld : data.HoldsLine pos _ line := ⟨hspans, hreturn, hshort⟩
        rw [line_eq_ok_iff.2 hheld]
        exact .line hheld
      · have hbare : data.HasBareReturn pos (pos + line.length) :=
          ⟨line, b, back, hafter.symm, hreturn, hshort, hfeed, rfl⟩
        rw [hbare.line_eq]
        exact .bareReturn hbare
  · by_cases hleft : lineLimit ≤ data.left pos
    · rw [IsUnending.line_eq ⟨hleft, hwindow⟩]
      exact .unending ⟨hleft, hwindow⟩
    · have hall : (data.after pos).take lineLimit = data.after pos := by
        apply List.take_of_length_le
        rw [length_after]
        omega
      rw [hall] at hwindow
      have hcut : data.HoldsCutLine pos (data.after pos) := by
        refine ⟨.inl rfl, hwindow, ?_⟩
        rw [length_after]
        omega
      rw [hcut.line_eq]
      exact .cut hcut

theorem line_eq_badLineTerminator_iff :
    data.line pos = ⟨.error (.badLineTerminator place), next⟩ ↔
      next = pos ∧ data.HasBareReturn pos place := by
  constructor
  · intro h
    have hcase := lineCase_line data pos
    rw [h] at hcase
    cases hcase with
    | bareReturn hbare => exact ⟨rfl, hbare⟩
  · rintro ⟨rfl, hbare⟩
    exact hbare.line_eq

theorem line_eq_lineTooLong_iff {limit : Nat} :
    data.line pos = ⟨.error (.lineTooLong place limit), next⟩ ↔
      next = pos ∧ data.IsUnending pos ∧ place = pos ∧ limit = lineLimit := by
  constructor
  · intro h
    have hcase := lineCase_line data pos
    rw [h] at hcase
    cases hcase with
    | unending hunending => exact ⟨rfl, hunending, rfl, rfl⟩
  · rintro ⟨rfl, hunending, rfl, rfl⟩
    exact hunending.line_eq

theorem line_eq_truncated_iff :
    data.line pos = ⟨.error (.truncated needed available), next⟩ ↔
      next = pos ∧ available = data.left pos ∧
        ∃ line, data.HoldsCutLine pos line ∧ needed = line.length + 2 := by
  constructor
  · intro h
    have hcase := lineCase_line data pos
    rw [h] at hcase
    cases hcase with
    | cut hcut => exact ⟨rfl, rfl, _, hcut, rfl⟩
  · rintro ⟨rfl, rfl, line, hcut, rfl⟩
    exact hcut.line_eq

/-- A line that is not read leaves the position. -/
theorem next_of_line_eq_error {error : ReadError} (h : data.line pos = ⟨.error error, next⟩) :
    next = pos := by
  have hcase := lineCase_line data pos
  rw [h] at hcase
  cases hcase <;> rfl

/-! ## More octets -/

/-- A buffer can be filled up so that it reaches a position, and nothing stands there then that did
not stand there before. -/
theorem exists_filled (data : Octets) (pos : Nat) :
    ∃ filling, pos ≤ (data ++ filling).size ∧ (data ++ filling).after pos = data.after pos := by
  refine ⟨Array.replicate (pos - data.size) 0, ?_, ?_⟩
  · rw [Array.size_append, Array.size_replicate]
    omega
  · rw [after_eq_drop, after_eq_drop, Array.toList_append, List.drop_append, Array.toList_replicate,
      Array.length_toList, List.drop_replicate, Nat.sub_self, List.replicate_zero, List.append_nil]

/-- A line that is cut off is completed by the octets that it lacks. -/
theorem HoldsCutLine.exists_line (h : data.HoldsCutLine pos line) :
    ∃ more, (data ++ more).line pos = ⟨.ok line, pos + (line.length + 2)⟩ := by
  obtain ⟨missing, hmissing⟩ : ∃ missing, data.after pos ++ missing = line ++ lineEnd := by
    rcases h.after_eq with hafter | hafter
    · exact ⟨lineEnd, by rw [hafter]⟩
    · exact ⟨[0x0A], by rw [hafter, List.append_assoc]; rfl⟩
  obtain ⟨filling, hsize, hafter⟩ := exists_filled data pos
  refine ⟨filling ++ missing.toArray, line_eq_ok_iff.2 ⟨?_, h.oneLine, h.short⟩⟩
  have hpos : pos ≤ (data ++ (filling ++ missing.toArray)).size := by
    rw [← Array.append_assoc, Array.size_append]
    omega
  have hwhole : (data ++ (filling ++ missing.toArray)).after pos = (line ++ lineEnd) ++ [] := by
    rw [← Array.append_assoc, after_eq_drop, Array.toList_append,
      List.drop_append_of_le_length (by rw [Array.length_toList]; exact hsize), ← after_eq_drop,
      hafter, hmissing, List.append_nil]
  have hspans := spans_of_after hpos hwhole
  rwa [List.length_append] at hspans

/-- A text without a carriage return that begins another one ends in front of the first carriage
return there. -/
theorem length_le_of_append_eq {rest : List UInt8} (hreturn : 0x0D ∉ line)
    (h : line ++ rest = text ++ 0x0D :: back) : line.length ≤ text.length := by
  by_contra hlt
  have hget : (line ++ rest)[text.length]? = some 0x0D := by
    rw [h, List.getElem?_append_right (Nat.le_refl _), Nat.sub_self, List.getElem?_cons_zero]
  rw [List.getElem?_append_left (by omega)] at hget
  exact hreturn (List.mem_of_getElem? hget)

/-- Whatever completes a line that is cut off, the line does not get shorter. -/
theorem HoldsCutLine.le_of_line (h : data.HoldsCutLine pos line)
    (hread : (data ++ more).line pos = ⟨.ok text, next⟩) : pos + (line.length + 2) ≤ next := by
  have hheld := line_eq_ok_iff.1 hread
  have hnext := hheld.spans.eq_add_length
  rw [List.length_append] at hnext
  obtain ⟨back, hback⟩ := hheld.spans.exists_after
  obtain ⟨piece, hpiece⟩ := exists_after_append data more pos
  obtain ⟨rest, hrest⟩ : ∃ rest, data.after pos = line ++ rest := by
    rcases h.after_eq with hafter | hafter
    · exact ⟨[], by rw [hafter, List.append_nil]⟩
    · exact ⟨[0x0D], hafter⟩
  have hlists : line ++ (rest ++ piece) = text ++ 0x0D :: 0x0A :: back := by
    rw [← List.append_assoc, ← hrest, ← hpiece, hback, List.append_assoc]
    rfl
  have hlength := length_le_of_append_eq h.oneLine hlists
  have hend : lineEnd.length = 2 := rfl
  omega

theorem HoldsCutLine.isCompletable (h : data.HoldsCutLine pos line) : data.IsCompletable pos := by
  obtain ⟨more, hmore⟩ := h.exists_line
  exact ⟨more, line, _, hmore⟩

/-- Where there is no line but more octets lead to one, the buffer ended too early. -/
theorem IsCompletable.isTruncated (h : data.IsCompletable pos)
    (hread : ∀ text next, data.line pos ≠ ⟨.ok text, next⟩) : (data.line pos).IsTruncated := by
  obtain ⟨more, text, next, hmore⟩ := h
  rcases line_append data more pos with hsame | htruncated
  · exact absurd (hsame.symm.trans hmore) (hread text next)
  · exact htruncated

/-! ## What the errors say -/

/-- What an error says of the buffer in which a line was wanted at a position. -/
structure Explains (data : Octets) (pos : Nat) (error : ReadError) : Prop where
  /-- Octets are said to be missing exactly if more of them may lead to a line. -/
  truncated_iff : error.kind = .truncated ↔ data.IsCompletable pos
  /-- The octets that are said to be needed are those of the shortest such line. -/
  isLeast_needed : ∀ needed available, error = .truncated needed available →
    available = data.left pos ∧
      IsLeast {count | ∃ more text, (data ++ more).line pos = ⟨.ok text, pos + count⟩} needed
  badLineTerminator_iff : ∀ place, error = .badLineTerminator place ↔ data.HasBareReturn pos place
  lineTooLong_iff : ∀ place limit, error = .lineTooLong place limit ↔
    data.IsUnending pos ∧ place = pos ∧ limit = lineLimit
  /-- There is no case that no error is for. -/
  exhaustive : data.IsCompletable pos ∨ (∃ place, data.HasBareReturn pos place) ∨
    data.IsUnending pos

theorem error_eq_iff {error error' : ReadError} (h : data.line pos = ⟨.error error, next⟩) :
    error = error' ↔ data.line pos = ⟨.error error', next⟩ := by
  rw [h]
  simp

theorem explains_of_line_eq_error {error : ReadError} (h : data.line pos = ⟨.error error, next⟩) :
    data.Explains pos error := by
  obtain rfl := next_of_line_eq_error h
  refine ⟨⟨?_, ?_⟩, ?_, ?_, ?_, ?_⟩
  · intro hkind
    have hcase := lineCase_line data next
    rw [h] at hcase
    cases hcase with
    | cut hcut => exact hcut.isCompletable
    | bareReturn hbare => cases hkind
    | unending hunending => cases hkind
  · intro hcompletable
    obtain ⟨error', herror', hkind⟩ := hcompletable.isTruncated (by simp [h])
    rw [h] at herror'
    cases herror'
    exact hkind
  · rintro needed available rfl
    obtain ⟨-, havailable, line, hcut, rfl⟩ := line_eq_truncated_iff.1 h
    obtain ⟨more, hmore⟩ := hcut.exists_line
    refine ⟨havailable, ⟨more, line, hmore⟩, ?_⟩
    rintro count ⟨more', text, hread⟩
    exact Nat.le_of_add_le_add_left (hcut.le_of_line hread)
  · intro place
    rw [error_eq_iff h, line_eq_badLineTerminator_iff]
    exact and_iff_right rfl
  · intro place limit
    rw [error_eq_iff h, line_eq_lineTooLong_iff]
    exact and_iff_right rfl
  · have hcase := lineCase_line data next
    rw [h] at hcase
    cases hcase with
    | cut hcut => exact .inl hcut.isCompletable
    | bareReturn hbare => exact .inr (.inl ⟨_, hbare⟩)
    | unending hunending => exact .inr (.inr hunending)

/-- **Lines are split off without loss, and the errors mean what they say.**  A line is read exactly
if it stands at the position: the octets that are passed over are the line, which has no carriage
return in it, and the two octets that end it.  Otherwise the position stays, and the error tells
which of the other three cases it is. -/
theorem line_read_exactly (data : Octets) (pos : Nat) :
    (∀ text next, data.line pos = ⟨.ok text, next⟩ ↔ data.HoldsLine pos next text) ∧
      ∀ error next, data.line pos = ⟨.error error, next⟩ → next = pos ∧ data.Explains pos error :=
  ⟨fun _ _ => line_eq_ok_iff, fun _ _ h => ⟨next_of_line_eq_error h, explains_of_line_eq_error h⟩⟩

/-- A buffer that ends behind the carriage return of a line of the greatest length. -/
def longestCut : Octets := (List.replicate 4095 (0x61 : UInt8) ++ [0x0D]).toArray

theorem holdsCutLine_longestCut : longestCut.HoldsCutLine 0 (List.replicate 4095 0x61) where
  after_eq := .inr (after_eq_drop longestCut 0)
  oneLine := fun hmem => absurd (List.eq_of_mem_replicate hmem) (by decide)
  short := by
    rw [List.length_replicate]
    decide

/-- One octet is missing from the longest line, and with it the line is read. -/
theorem line_read_exactly_longestCut :
    longestCut.line 0 = ⟨.error (.truncated 4097 4096), 0⟩ ∧
      longestCut.Explains 0 (.truncated 4097 4096) := by
  have hread : longestCut.line 0 = ⟨.error (.truncated 4097 4096), 0⟩ := by
    have hleft : longestCut.left 0 = 4096 := by
      rw [left, longestCut, List.size_toArray, List.length_append, List.length_replicate]
      rfl
    rw [holdsCutLine_longestCut.line_eq, List.length_replicate, hleft]
  exact ⟨hread, ((line_read_exactly longestCut 0).2 _ _ hread).2⟩

end Octets
end GameBox
