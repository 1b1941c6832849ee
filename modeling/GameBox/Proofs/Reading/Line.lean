import GameBox.Proofs.Reading.Field

/-!
# How long a line may be

The end of a line is looked for among a fixed number of octets, `Octets.lineLimit`, and this is also
the length that a line is said to have at most.  The carriage return is one of the octets that are
looked at, though.  So the longest line that is read is one octet shorter than the limit, and a line
as long as the limit is already too long.

* `Octets.line_read_iff`: lines without a carriage return are read exactly if they are shorter than
  the limit.
* `Octets.not_readsLine_of_limit`: a line that is as long as the limit.
-/

namespace GameBox
namespace Octets

variable {text : List UInt8}

/-- A text is read from a buffer as a line and as a string. -/
def ReadsLine (data : Octets) (pos : Nat) (text : List UInt8) : Prop :=
  data.line pos = ⟨.ok text, pos + text.length + 2⟩ ∧
    Field.string.read .text data pos = ⟨.ok (Utf8.decode text), pos + text.length + 2⟩

/-- At a position of a buffer there is a line that is too long, and the position stays. -/
def RefusesLine (data : Octets) (pos : Nat) : Prop :=
  data.line pos = ⟨.error (.lineTooLong pos lineLimit), pos⟩ ∧
    Field.string.read .text data pos = ⟨.error (.lineTooLong pos lineLimit), pos⟩

theorem readsLine_of_lt (hreturn : 0x0D ∉ text) (hlength : text.length < lineLimit)
    (front back : List UInt8) :
    ReadsLine (front ++ (text ++ lineEnd) ++ back).toArray front.length text := by
  have hline := line_middle front back hreturn hlength
  rw [List.length_append, ← Nat.add_assoc] at hline
  refine ⟨hline, ?_⟩
  show (Octets.line _ _).map Utf8.decode = _
  rw [hline]
  rfl

theorem refusesLine_of_le (hreturn : 0x0D ∉ text) (hlength : lineLimit ≤ text.length)
    (front back : List UInt8) : RefusesLine (front ++ text ++ back).toArray front.length := by
  have hline := line_of_long hreturn hlength front back
  refine ⟨hline, ?_⟩
  show (Octets.line _ _).map Utf8.decode = _
  rw [hline]
  rfl

theorem not_readsLine_of_le (hreturn : 0x0D ∉ text) (hlength : lineLimit ≤ text.length)
    (front back : List UInt8) :
    ¬ReadsLine (front ++ (text ++ lineEnd) ++ back).toArray front.length text := by
  rintro ⟨hline, -⟩
  have hlong := (refusesLine_of_le hreturn hlength front (lineEnd ++ back)).1
  rw [List.append_assoc, ← List.append_assoc text, ← List.append_assoc front, hline] at hlong
  cases hlong

/-- **Lines shorter than the limit are read, and no others.**  A text without a carriage return that
is written as a line is read back, as a line and as a string, exactly if it is shorter than the
limit.  Any other is refused, whatever follows it, and the position stays where it was. -/
theorem line_read_iff (hreturn : 0x0D ∉ text) (front back : List UInt8) :
    (ReadsLine (front ++ (text ++ lineEnd) ++ back).toArray front.length text ↔
      text.length < lineLimit) ∧
    (lineLimit ≤ text.length → RefusesLine (front ++ text ++ back).toArray front.length) := by
  refine ⟨⟨fun h => ?_, fun hlength => readsLine_of_lt hreturn hlength front back⟩,
    fun hlength => refusesLine_of_le hreturn hlength front back⟩
  by_contra hlength
  exact not_readsLine_of_le hreturn (Nat.le_of_not_lt hlength) front back h

/-- The longest line that is read has one octet less than the limit. -/
theorem line_read_iff_longest :
    0x0D ∉ List.replicate 4095 (0x61 : UInt8) ∧
      ReadsLine ([0x0A] ++ (List.replicate 4095 0x61 ++ lineEnd) ++ [0x0D]).toArray 1
        (List.replicate 4095 0x61) := by
  have hreturn : 0x0D ∉ List.replicate 4095 (0x61 : UInt8) :=
    fun h => absurd (List.eq_of_mem_replicate h) (by decide)
  have hlength : (List.replicate 4095 (0x61 : UInt8)).length < lineLimit := by
    rw [List.length_replicate]
    decide
  exact ⟨hreturn, (line_read_iff hreturn [0x0A] [0x0D]).1.2 hlength⟩

/-- A line that is as long as the limit is not read. -/
theorem not_readsLine_of_limit :
    0x0D ∉ List.replicate lineLimit (0x61 : UInt8) ∧
      ¬ReadsLine (List.replicate lineLimit 0x61 ++ lineEnd).toArray 0
        (List.replicate lineLimit 0x61) := by
  have hreturn : 0x0D ∉ List.replicate lineLimit (0x61 : UInt8) :=
    fun h => absurd (List.eq_of_mem_replicate h) (by decide)
  have hlength : lineLimit ≤ (List.replicate lineLimit (0x61 : UInt8)).length := by
    rw [List.length_replicate]
  have hnot := not_readsLine_of_le hreturn hlength [] []
  rw [List.nil_append, List.append_nil] at hnot
  exact ⟨hreturn, hnot⟩

end Octets
end GameBox
