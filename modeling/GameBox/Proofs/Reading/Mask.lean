import GameBox.Proofs.Reading.Decimal

/-!
# Masks and the longest of them

A mask is read from the beginning of its line, and whatever follows it is left alone.  So one would
expect that the longest mask is read that the line begins with.  A mark makes a difference, since
the zero of a mark is a digit: what begins with a mark begins with a mask in any case, and if no
digit follows the mark, then its zero is the longest.

The reader does not go back.  It passes over the mark and refuses the line if there is no digit
behind it.  `scan_mask_iff` says that this is the only exception: the reader follows the rule of the
longest mask on every line but those that begin with a mark and go on without a digit.

* `IsMask.length_le_of_begins`: the masks that a text begins with.
* `isLongest_of_mark`, `isLongest_of_bareMark`, `isLongest_of_unmarked`: the longest one.
* `scan_mask_iff`, `not_followsLongestMask`: when it is read.
-/

namespace GameBox
namespace Numeral

variable {text rest piece mark digits line : List UInt8} {n m : Nat}

/-- A mask, whatever its number is. -/
def HasMask (piece : List UInt8) : Prop := ∃ n, IsMask piece n

/-- The rule of the longest mask that a line begins with: its number is what is read, and a line is
refused if there is none or its number has more than 32 bits. -/
def FollowsLongestMask (line : List UInt8) (result : Except ReadError Nat) : Prop :=
  (∀ n, result = .ok n ↔ n < UInt32.size ∧
    ∃ piece, IsLongest HasMask (skipSpace line) piece ∧ IsMask piece n) ∧
  ∀ error, result = .error error ↔ error = .invalidText .mask (Utf8.decode line) ∧
    ((∀ piece, piece <+: skipSpace line → ¬HasMask piece) ∨
      ∃ piece n, IsLongest HasMask (skipSpace line) piece ∧ IsMask piece n ∧ UInt32.size ≤ n)

/-! ## Marks -/

/-- The octets of a mark: a zero, which is a digit, and a letter, which is none. -/
theorem exists_letter_of_mark (hmark : mark ∈ maskMarks) (hne : mark ≠ []) :
    ∃ letter, mark = [0x30, letter] ∧ isHexDigit letter = false := by
  simp only [maskMarks, List.mem_cons, List.not_mem_nil, or_false] at hmark
  rcases hmark with rfl | rfl | rfl
  · exact absurd rfl hne
  · exact ⟨0x78, rfl, rfl⟩
  · exact ⟨0x58, rfl, rfl⟩

/-- The digits at the beginning of a mark are its zero. -/
theorem takeWhile_mark (hmark : mark ∈ maskMarks) (hne : mark ≠ []) (rest : List UInt8) :
    (mark ++ rest).takeWhile isHexDigit = [0x30] := by
  obtain ⟨letter, rfl, hletter⟩ := exists_letter_of_mark hmark hne
  show ([0x30] ++ letter :: rest).takeWhile isHexDigit = [0x30]
  exact takeWhile_append (List.forall_mem_singleton.2 rfl) (avoids_cons.2 hletter)

/-- Marks have no common text but themselves. -/
theorem mark_eq_of_append_begins {mark' rest' : List UInt8} (hmark : mark ∈ maskMarks)
    (hne : mark ≠ []) (hmark' : mark' ∈ maskMarks) (hne' : mark' ≠ [])
    (h : mark' ++ rest' <+: mark ++ rest) : mark' = mark ∧ rest' <+: rest := by
  obtain ⟨letter, rfl, -⟩ := exists_letter_of_mark hmark hne
  obtain ⟨letter', rfl, -⟩ := exists_letter_of_mark hmark' hne'
  obtain ⟨back, hback⟩ := h
  simp only [List.cons_append, List.nil_append, List.cons.injEq, true_and] at hback
  obtain ⟨rfl, rfl⟩ := hback
  exact ⟨rfl, List.prefix_append _ _⟩

/-- Digits without a mark are no longer than the digits that a text begins with. -/
theorem length_le_takeWhile (hdigits : ∀ b ∈ digits, isHexDigit b = true) (h : digits <+: text) :
    digits.length ≤ (text.takeWhile isHexDigit).length := by
  have hbegins : digits ++ [] <+: text := by rwa [List.append_nil]
  rcases (takes_takeWhile isHexDigit text).greedy digits [] hdigits .nil hbegins with
    ⟨-, hle⟩ | ⟨rfl, -⟩
  · exact hle
  · exact le_rfl

theorem isMask_iff : IsMask piece n ↔ ∃ mark ∈ maskMarks, ∃ digits,
    IsDigits isHexDigit digits ∧ piece = mark ++ digits ∧ n = placeValue 16 digits := by
  constructor
  · rintro ⟨hmark, hdigits⟩
    exact ⟨_, hmark, _, hdigits, rfl, rfl⟩
  · rintro ⟨mark, hmark, digits, hdigits, rfl, rfl⟩
    exact .intro hmark hdigits

/-- Digits are a mask without a mark before them. -/
theorem isMask_of_isDigits (h : IsDigits isHexDigit digits) :
    IsMask digits (placeValue 16 digits) :=
  isMask_iff.2 ⟨[], List.mem_cons_self, digits, h, rfl, rfl⟩

theorem isMask_zero : IsMask [0x30] 0 :=
  isMask_of_isDigits ⟨List.cons_ne_nil _ _, List.forall_mem_singleton.2 rfl⟩

/-- A mark is no beginning of digits. -/
theorem not_forall_isHexDigit_of_mark (hmark : mark ∈ maskMarks) (hne : mark ≠ [])
    (rest : List UInt8) : ¬∀ b ∈ mark ++ rest, isHexDigit b = true := by
  obtain ⟨letter, rfl, hletter⟩ := exists_letter_of_mark hmark hne
  intro h
  have htrue := h letter (by simp)
  rw [hletter] at htrue
  cases htrue

/-- A mask has one number. -/
theorem IsMask.unique (h : IsMask piece n) (h' : IsMask piece m) : n = m := by
  obtain ⟨mark, hmark, digits, hdigits, rfl, rfl⟩ := isMask_iff.1 h
  obtain ⟨mark', hmark', digits', hdigits', heq, rfl⟩ := isMask_iff.1 h'
  by_cases hne : mark = []
  · subst hne
    by_cases hne' : mark' = []
    · subst hne'
      rw [List.nil_append, List.nil_append] at heq
      rw [heq]
    · rw [List.nil_append] at heq
      exact absurd (heq ▸ hdigits.forall_mem) (not_forall_isHexDigit_of_mark hmark' hne' digits')
  · by_cases hne' : mark' = []
    · subst hne'
      rw [List.nil_append] at heq
      exact absurd (heq ▸ hdigits'.forall_mem) (not_forall_isHexDigit_of_mark hmark hne digits)
    · have hbegins : mark' ++ digits' <+: mark ++ digits := heq ▸ List.prefix_rfl
      obtain ⟨rfl, -⟩ := mark_eq_of_append_begins hmark hne hmark' hne' hbegins
      rw [List.append_cancel_left heq]

/-! ## The longest mask -/

/-- The masks that a text begins with: behind a mark, or without one. -/
theorem HasMask.cases (h : HasMask piece) (hbegins : piece <+: text) :
    (∃ mark ∈ maskMarks, mark ≠ [] ∧ ∃ digits, IsDigits isHexDigit digits ∧
      piece = mark ++ digits) ∨
      piece ≠ [] ∧ piece.length ≤ (text.takeWhile isHexDigit).length := by
  obtain ⟨n, h⟩ := h
  obtain ⟨mark, hmark, digits, hdigits, rfl, rfl⟩ := isMask_iff.1 h
  by_cases hne : mark = []
  · subst hne
    exact .inr ⟨hdigits.ne_nil, length_le_takeWhile hdigits.forall_mem hbegins⟩
  · exact .inl ⟨mark, hmark, hne, digits, hdigits, rfl⟩

/-- Behind a mark, the longest mask has all digits that follow it. -/
theorem isLongest_of_mark (hmark : mark ∈ maskMarks) (hne : mark ≠ [])
    (hdigits : IsDigits isHexDigit digits) (hrest : Avoids isHexDigit rest) :
    IsLongest HasMask (mark ++ (digits ++ rest)) (mark ++ digits) := by
  refine ⟨⟨rest, List.append_assoc _ _ _⟩, ⟨_, .intro hmark hdigits⟩,
    fun other hbegins hother => ?_⟩
  rcases hother.cases hbegins with ⟨mark', hmark', hne', digits', hdigits', rfl⟩ | ⟨-, hle⟩
  · obtain ⟨rfl, hbegins'⟩ := mark_eq_of_append_begins hmark hne hmark' hne' hbegins
    have hle := length_le_takeWhile hdigits'.forall_mem hbegins'
    rw [takeWhile_append hdigits.forall_mem hrest] at hle
    rw [List.length_append, List.length_append]
    exact Nat.add_le_add_left hle _
  · rw [takeWhile_mark hmark hne] at hle
    obtain ⟨letter, rfl, -⟩ := exists_letter_of_mark hmark hne
    rw [List.length_append]
    exact Nat.le_add_right_of_le (hle.trans (Nat.le_succ 1))

/-- A mark without digits behind it leaves its zero. -/
theorem isLongest_of_bareMark (h : BeginsWithBareMark text) : IsLongest HasMask text [0x30] := by
  obtain ⟨mark, hmark, hne, rest, rfl, hrest⟩ := h
  refine ⟨?_, ⟨0, isMask_zero⟩, fun other hbegins hother => ?_⟩
  · obtain ⟨letter, rfl, -⟩ := exists_letter_of_mark hmark hne
    exact ⟨letter :: rest, rfl⟩
  · rcases hother.cases hbegins with ⟨mark', hmark', hne', digits', hdigits', rfl⟩ | ⟨-, hle⟩
    · obtain ⟨rfl, hbegins'⟩ := mark_eq_of_append_begins hmark hne hmark' hne' hbegins
      exact absurd hbegins' (hdigits'.not_begins hrest)
    · rwa [takeWhile_mark hmark hne] at hle

/-- Without a mark, the longest mask has all digits that there are. -/
theorem isLongest_of_unmarked (hmarks : ∀ mark ∈ maskMarks, mark ≠ [] → ¬mark <+: digits ++ rest)
    (hdigits : IsDigits isHexDigit digits) (hrest : Avoids isHexDigit rest) :
    IsLongest HasMask (digits ++ rest) digits := by
  refine ⟨List.prefix_append _ _, ⟨_, isMask_of_isDigits hdigits⟩,
    fun other hbegins hother => ?_⟩
  rcases hother.cases hbegins with ⟨mark', hmark', hne', digits', -, rfl⟩ | ⟨-, hle⟩
  · exact absurd ((List.prefix_append _ _).trans hbegins) (hmarks mark' hmark' hne')
  · rwa [takeWhile_append hdigits.forall_mem hrest] at hle

/-! ## What is read -/

theorem mask?_of_mark (hmark : mark ∈ maskMarks) (hne : mark ≠ [])
    (h : skipSpace line = mark ++ rest) :
    mask? line = (leading? 16 isHexDigit rest).filter (· < UInt32.size) := by
  simp only [maskMarks, List.mem_cons, List.not_mem_nil, or_false] at hmark
  unfold mask?
  rcases hmark with rfl | rfl | rfl
  · exact absurd rfl hne
  · rw [h]
    rfl
  · rw [h]
    rfl

theorem mask?_of_unmarked (h : ∀ mark ∈ maskMarks, mark ≠ [] → ¬mark <+: skipSpace line) :
    mask? line = (leading? 16 isHexDigit (skipSpace line)).filter (· < UInt32.size) := by
  unfold mask?
  split
  · rename_i rest hrest
    exact absurd ⟨rest, hrest.symm⟩ (h [0x30, 0x78] (by decide) (by decide))
  · rename_i rest hrest
    exact absurd ⟨rest, hrest.symm⟩ (h [0x30, 0x58] (by decide) (by decide))
  · rfl

/-- What is read follows the rule, if it is the number of the longest mask. -/
theorem followsLongestMask_of_isLongest (hlongest : IsLongest HasMask (skipSpace line) piece)
    (hmask : IsMask piece n) (hread : mask? line = (some n).filter (· < UInt32.size)) :
    FollowsLongestMask line (Field.mask.scan mask? line) := by
  constructor
  · intro m
    rw [Field.scan_eq_ok_iff, hread, Option.filter_eq_some_iff, Option.some_inj, decide_eq_true_eq]
    constructor
    · rintro ⟨rfl, hlt⟩
      exact ⟨hlt, piece, hlongest, hmask⟩
    · rintro ⟨hlt, piece', hlongest', hmask'⟩
      obtain rfl := hlongest.eq hlongest'
      exact ⟨hmask.unique hmask', hlt⟩
  · intro error
    rw [Field.scan_eq_error_iff, hread, Option.filter_eq_none_iff]
    refine and_congr_right fun _ => ⟨fun h => ?_, ?_⟩
    · have hle : UInt32.size ≤ n := by simpa using h n rfl
      exact .inr ⟨piece, n, hlongest, hmask, hle⟩
    · rintro (hnone | ⟨piece', m, hlongest', hmask', hle⟩)
      · exact absurd hlongest.allowed (hnone piece hlongest.begins)
      · obtain rfl := hlongest.eq hlongest'
        obtain rfl := hmask.unique hmask'
        simpa using hle

/-- And so does a line that is refused because it begins with no mask. -/
theorem followsLongestMask_of_forall_not
    (hnone : ∀ piece, piece <+: skipSpace line → ¬HasMask piece) (hread : mask? line = none) :
    FollowsLongestMask line (Field.mask.scan mask? line) := by
  constructor
  · intro m
    rw [Field.scan_eq_ok_iff, hread]
    constructor
    · rintro ⟨⟩
    · rintro ⟨-, piece, hlongest, -⟩
      exact absurd hlongest.allowed (hnone piece hlongest.begins)
  · intro error
    rw [Field.scan_eq_error_iff]
    exact and_congr_right fun _ => ⟨fun _ => .inl hnone, fun _ => hread⟩

/-- Where no digit follows a mark, the line is refused. -/
theorem scan_mask_of_bareMark (h : BeginsWithBareMark (skipSpace line)) :
    Field.mask.scan mask? line = .error (.invalidText .mask (Utf8.decode line)) := by
  obtain ⟨mark, hmark, hne, rest, hline, hrest⟩ := h
  have hnone : leading? 16 isHexDigit rest = none :=
    leading?_eq_none_iff.2 (takeWhile_of_avoids hrest)
  refine Field.scan_eq_error_iff.2 ⟨rfl, ?_⟩
  rw [mask?_of_mark hmark hne hline, hnone]
  rfl

/-- So the zero of the mark, which is the longest mask, is not read. -/
theorem not_followsLongestMask_of_bareMark (h : BeginsWithBareMark (skipSpace line)) :
    ¬FollowsLongestMask line (Field.mask.scan mask? line) := by
  intro hfollows
  have hread := (hfollows.1 0).2 ⟨by decide, [0x30], isLongest_of_bareMark h, isMask_zero⟩
  rw [scan_mask_of_bareMark h] at hread
  cases hread

/-- Everywhere else the longest mask is read. -/
theorem followsLongestMask_scan (h : ¬BeginsWithBareMark (skipSpace line)) :
    FollowsLongestMask line (Field.mask.scan mask? line) := by
  by_cases hmarked : ∃ mark ∈ maskMarks, mark ≠ [] ∧ mark <+: skipSpace line
  · obtain ⟨mark, hmark, hne, rest, hline⟩ := hmarked
    rcases avoids_or_exists_digits isHexDigit rest with hbare | ⟨digits, back, rfl, hdigits, hback⟩
    · exact absurd ⟨mark, hmark, hne, rest, hline.symm, hbare⟩ h
    · refine followsLongestMask_of_isLongest (hline ▸ isLongest_of_mark hmark hne hdigits hback)
        (.intro hmark hdigits) ?_
      rw [mask?_of_mark hmark hne hline.symm,
        leading?_eq_some_iff.2 ⟨digits, back, rfl, hdigits, hback, rfl⟩]
  · have hmarks : ∀ mark ∈ maskMarks, mark ≠ [] → ¬mark <+: skipSpace line :=
      fun mark hmark hne hbegins => hmarked ⟨mark, hmark, hne, hbegins⟩
    rcases avoids_or_exists_digits isHexDigit (skipSpace line) with
      havoids | ⟨digits, back, hline, hdigits, hback⟩
    · refine followsLongestMask_of_forall_not (fun piece hbegins hmask => ?_) ?_
      · rcases hmask.cases hbegins with ⟨mark, hmark, hne, digits, -, rfl⟩ | ⟨hne, hle⟩
        · exact hmarks mark hmark hne ((List.prefix_append _ _).trans hbegins)
        · rw [takeWhile_of_avoids havoids] at hle
          exact hne (List.eq_nil_of_length_eq_zero (Nat.le_zero.1 hle))
      · rw [mask?_of_unmarked hmarks, leading?_eq_none_iff.2 (takeWhile_of_avoids havoids)]
        rfl
    · have hlongest : IsLongest HasMask (skipSpace line) digits := by
        rw [hline] at hmarks ⊢
        exact isLongest_of_unmarked hmarks hdigits hback
      refine followsLongestMask_of_isLongest hlongest (isMask_of_isDigits hdigits) ?_
      rw [mask?_of_unmarked hmarks,
        leading?_eq_some_iff.2 ⟨digits, back, hline, hdigits, hback, rfl⟩]

/-- **The longest mask is read, unless a mark stands without digits.**  The reader follows the rule
of the longest mask on a line exactly if the line does not begin with a mark that no digit follows.
On such a line the zero of the mark is the longest mask, and the line is refused. -/
theorem scan_mask_iff (line : List UInt8) :
    (FollowsLongestMask line (Field.mask.scan mask? line) ↔
      ¬BeginsWithBareMark (skipSpace line)) ∧
    (BeginsWithBareMark (skipSpace line) →
      Field.mask.scan mask? line = .error (.invalidText .mask (Utf8.decode line)) ∧
        IsLongest HasMask (skipSpace line) [0x30] ∧ IsMask [0x30] 0) := by
  refine ⟨⟨fun hfollows hbare => ?_, followsLongestMask_scan⟩, fun hbare => ?_⟩
  · exact not_followsLongestMask_of_bareMark hbare hfollows
  · exact ⟨scan_mask_of_bareMark hbare, isLongest_of_bareMark hbare, isMask_zero⟩

/-- The line `0xg` begins with the mask `0`, and is refused. -/
theorem not_followsLongestMask :
    ¬FollowsLongestMask [0x30, 0x78, 0x67] (Field.mask.scan mask? [0x30, 0x78, 0x67]) :=
  not_followsLongestMask_of_bareMark
    ⟨[0x30, 0x78], by decide, by decide, [0x67], rfl, avoids_cons.2 rfl⟩

end Numeral
end GameBox
