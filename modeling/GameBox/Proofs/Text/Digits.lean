import GameBox.Text.Digits.Grammar
import Mathlib.Algebra.Group.Nat.Defs

/-!
# Numbers that were written in digits denote themselves

The digits of a number, filled up with zeros, denote it (`Text.isNumber_decimal`), and they keep to
a fixed width as long as the number does (`Text.isPlace_decimal`).

In the other direction, a text determines the run of digits that it begins with, because the run
ends before the first character that is no digit (`Text.Denotes.eq_of_append_cons`).  Whoever reads
the numbers in a text one after the other is left no choice.
-/

namespace GameBox
namespace Text

variable {digits digits' rest rest' : List Char} {c c' : Char} {width n n' : Nat}

/-! ## Written numbers -/

@[simp] theorem toList_decimal (width n : Nat) :
    (decimal width n).toList = fillLeft '0' width (Nat.toDigits 10 n) := by
  rw [decimal, String.toList_ofList]

/-- The first digit of a number is a zero only if the number is zero. -/
theorem head?_toDigits_ne (h : 0 < n) : (Nat.toDigits 10 n).head? ≠ some '0' := by
  induction n using Nat.strongRecOn with
  | ind n ih =>
    by_cases hlt : n < 10
    · have hdigit : ∀ digit < 10, 0 < digit → Nat.digitChar digit ≠ '0' := by decide
      rw [Nat.toDigits_of_lt_base hlt, List.head?_cons]
      exact fun heq => hdigit n hlt h (Option.some.inj heq)
    · have hsome : (Nat.toDigits 10 (n / 10)).head?.isSome = true :=
        List.isSome_head?.2 Nat.toDigits_ne_nil
      rw [Nat.toDigits_of_base_le (by decide) (Nat.le_of_not_lt hlt), List.head?_append,
        Option.or_of_isSome hsome]
      exact ih (n / 10) (by omega) (by omega)

theorem denotes_fillLeft (width n : Nat) : Denotes (fillLeft '0' width (Nat.toDigits 10 n)) n where
  ne_nil := List.append_ne_nil_of_right_ne_nil _ Nat.toDigits_ne_nil
  forall_mem := by
    intro c hc
    rcases List.mem_append.1 hc with hzero | hdigit
    · rw [List.eq_of_mem_replicate hzero]
      rfl
    · exact Nat.isDigit_of_mem_toDigits (by decide) (by decide) hdigit
  value := by
    rw [fillLeft, Nat.ofDigitChars_append, Nat.ofDigitChars_replicate_zero, Nat.mul_zero,
      Nat.ofDigitChars_ten_toDigits]

/-- A written number denotes itself, and stands behind no more zeros than its width asks for. -/
theorem isNumber_decimal (width : Nat) (h : 0 < width) (n : Nat) :
    IsNumber width (decimal width n).toList n := by
  rw [toList_decimal]
  refine { denotes_fillLeft width n with le_length := ?_, head_ne := fun hlt => ?_ }
  · rw [length_fillLeft]
    exact Nat.le_max_left _ _
  · rw [length_fillLeft] at hlt
    have hwide : width < (Nat.toDigits 10 n).length := by omega
    rw [fillLeft_of_le (Nat.le_of_lt hwide)]
    refine head?_toDigits_ne (Nat.pos_of_ne_zero fun hzero => ?_)
    rw [hzero, Nat.toDigits_zero, List.length_singleton] at hwide
    omega

/-- A number that is small enough keeps to its width. -/
theorem isPlace_decimal (width : Nat) (h : 0 < width) (hn : n < 10 ^ width) :
    IsPlace width (decimal width n).toList n := by
  rw [toList_decimal]
  refine { denotes_fillLeft width n with length_eq := ?_ }
  rw [length_fillLeft, Nat.max_eq_left]
  exact (Nat.length_toDigits_le_iff (by decide) h).2 hn

/-! ## Reading -/

/-- A run of digits ends before the first character that is no digit. -/
theorem Denotes.takeWhile_append_cons (h : Denotes digits n) (hc : c.isDigit = false)
    (rest : List Char) : (digits ++ c :: rest).takeWhile Char.isDigit = digits := by
  rw [List.takeWhile_append_of_pos h.forall_mem,
    List.takeWhile_cons_of_neg (Bool.eq_false_iff.1 hc), List.append_nil]

/-- Digits are read in one way only if what follows them is no digit. -/
theorem Denotes.eq_of_append_cons (h : Denotes digits n) (h' : Denotes digits' n')
    (hc : c.isDigit = false) (hc' : c'.isDigit = false)
    (heq : digits ++ c :: rest = digits' ++ c' :: rest') : n = n' ∧ c = c' ∧ rest = rest' := by
  have hdigits : digits = digits' := by
    rw [← h.takeWhile_append_cons hc rest, heq, h'.takeWhile_append_cons hc' rest']
  subst hdigits
  exact ⟨h.value.symm.trans h'.value, List.cons.inj (List.append_cancel_left heq)⟩

/-- Digits are no text that begins with something else. -/
theorem Denotes.append_ne_cons (h : Denotes digits n) (hc : c.isDigit = false) :
    digits ++ rest ≠ c :: rest' := by
  obtain ⟨first, others, rfl⟩ := List.exists_cons_of_ne_nil h.ne_nil
  intro heq
  rw [List.cons_append, List.cons.injEq] at heq
  have hfirst := h.forall_mem first List.mem_cons_self
  rw [heq.1, hc] at hfirst
  exact Bool.false_ne_true hfirst

end Text
end GameBox
