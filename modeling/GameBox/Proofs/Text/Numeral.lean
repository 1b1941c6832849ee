import GameBox.Proofs.Text.Utf8
import GameBox.Text.Digits
import GameBox.Text.Numeral
import Mathlib.Data.List.TakeWhile
import Mathlib.Algebra.Order.Ring.Nat

/-!
# Numbers that were written in digits are read back

A number in a text file is a line of digits.  The writer divides by the base until nothing is left,
the reader multiplies by it, and the two meet in the recursion of `Nat.toDigits`: a number below the
base is one digit, and any other is the digits of its quotient and one digit more.

## Octets

The reader works on octets and knows no characters, so the digits of a number are turned into octets
first.  `octet` is the octet of one digit, and what the readers believe of it is decided for all
digits at once (`digitValue_octet`, `of_mem_octetsOf_ten`, `of_mem_octetsOf_sixteen`).

## Lines

The line of a number has nothing but its digits in it, and so the reader skips no space and no
sign, and takes all of it.  `unsigned?_octetsOf`, `signed?_octetsOf`, `signed?_minus_octetsOf` and
`mask?_octetsOf` say what each reader finds, and the last section which texts these lines are.
-/

namespace GameBox

/-- The octets of a text in which every character is one octet. -/
theorem Utf8.encode_ofList {chars : List Char} (h : ∀ c ∈ chars, c.toNat < 0x80) :
    encode (String.ofList chars) = chars.map fun c => UInt8.ofNat c.toNat := by
  rw [encode, String.toList_ofList]
  induction chars with
  | nil => rfl
  | cons c chars ih =>
    have hc : c.val.toNat ≤ 0x7F := Nat.le_of_lt_succ (h c List.mem_cons_self)
    rw [List.flatMap_cons, List.map_cons, ih fun c hmem => h c (List.mem_cons_of_mem _ hmem),
      String.utf8EncodeChar, if_pos hc, List.singleton_append]
    rfl

namespace Numeral

variable {base n : Nat}

/-! ## Digits -/

/-- The octet of a digit. -/
def octet (digit : Nat) : UInt8 := UInt8.ofNat (Nat.digitChar digit).toNat

theorem digitValue_octet : ∀ digit < 16, digitValue (octet digit) = digit := by
  decide

theorem toNat_digitChar_lt : ∀ digit < 16, (Nat.digitChar digit).toNat < 0x80 := by
  decide

/-- What holds of every digit of a base holds of the digits of a number. -/
theorem forall_mem_toDigits {P : Char → Prop} (hbase : 1 < base)
    (h : ∀ digit < base, P (Nat.digitChar digit)) (n : Nat) : ∀ c ∈ Nat.toDigits base n, P c := by
  induction n using Nat.base_induction base hbase with
  | single digit hdigit =>
    rw [Nat.toDigits_of_lt_base hdigit, List.forall_mem_singleton]
    exact h digit hdigit
  | digit n digit hdigit hn ih =>
    rw [← Nat.toDigits_append_toDigits hbase hn hdigit, Nat.toDigits_of_lt_base hdigit,
      List.forall_mem_append, List.forall_mem_singleton]
    exact ⟨ih, h digit hdigit⟩

/-- The digits of a number, as octets. -/
def octetsOf (base n : Nat) : List UInt8 :=
  (Nat.toDigits base n).map fun c => UInt8.ofNat c.toNat

theorem octetsOf_ne_nil (base n : Nat) : octetsOf base n ≠ [] := by
  rw [octetsOf, Ne, List.map_eq_nil_iff]
  exact Nat.toDigits_ne_nil

theorem forall_mem_octetsOf {P : UInt8 → Prop} (hbase : 1 < base)
    (h : ∀ digit < base, P (octet digit)) (n : Nat) : ∀ b ∈ octetsOf base n, P b := by
  rw [octetsOf, List.forall_mem_map]
  exact forall_mem_toDigits hbase h n

/-- What the readers of numbers, and of lines, believe of decimal digits. -/
theorem of_mem_octetsOf_ten (n : Nat) : ∀ b ∈ octetsOf 10 n,
    isDigit b = true ∧ isSpace b = false ∧ isSign b = false ∧ b ≠ 0x0D :=
  forall_mem_octetsOf (by decide) (by decide) n

/-- What they believe of hexadecimal digits; the letters of the prefix are none. -/
theorem of_mem_octetsOf_sixteen (n : Nat) : ∀ b ∈ octetsOf 16 n,
    isHexDigit b = true ∧ isSpace b = false ∧ b ≠ 0x78 ∧ b ≠ 0x58 ∧ b ≠ 0x0D :=
  forall_mem_octetsOf (by decide) (by decide) n

theorem length_octetsOf_le {width : Nat} (hbase : 1 < base) (hwidth : 0 < width)
    (h : n < base ^ width) : (octetsOf base n).length ≤ width := by
  rw [octetsOf, List.length_map]
  exact (Nat.length_toDigits_le_iff hbase hwidth).2 h

/-- The digits of a number denote it. -/
theorem value_octetsOf (hbase : 1 < base) (hmax : base ≤ 16) (n : Nat) :
    value base (octetsOf base n) = n := by
  have hoctet : ∀ digit < base, digitValue (octet digit) = digit :=
    fun digit h => digitValue_octet digit (Nat.lt_of_lt_of_le h hmax)
  unfold octetsOf
  induction n using Nat.base_induction base hbase with
  | single digit hdigit =>
    rw [Nat.toDigits_of_lt_base hdigit, List.map_singleton]
    show value base ([] ++ [octet digit]) = digit
    rw [value_concat, value_nil, Nat.zero_mul, Nat.zero_add, hoctet digit hdigit]
  | digit n digit hdigit hn ih =>
    rw [← Nat.toDigits_append_toDigits hbase hn hdigit, Nat.toDigits_of_lt_base hdigit,
      List.map_append, List.map_singleton]
    show value base (_ ++ [octet digit]) = _
    rw [value_concat, ih, hoctet digit hdigit, Nat.mul_comm]

/-- Zeros in front of digits change nothing. -/
theorem value_replicate_zero_append (base count : Nat) (digits : List UInt8) :
    value base (List.replicate count (octet 0) ++ digits) = value base digits := by
  have hzero : digitValue (octet 0) = 0 := digitValue_octet 0 (by decide)
  induction count with
  | zero => rfl
  | succ count ih =>
    rw [← ih, List.replicate_succ, List.cons_append, value, List.foldl_cons, hzero, Nat.zero_mul]
    rfl

/-! ## Lines -/

/-- A line of digits denotes their value. -/
theorem leading?_of_forall {digit : UInt8 → Bool} {digits : List UInt8} (hne : digits ≠ [])
    (h : ∀ b ∈ digits, digit b = true) : leading? base digit digits = some (value base digits) := by
  obtain ⟨first, rest, rfl⟩ := List.exists_cons_of_ne_nil hne
  rw [leading?, List.takeWhile_eq_self_iff.2 h]

theorem leading?_octetsOf (n : Nat) : leading? 10 isDigit (octetsOf 10 n) = some n := by
  rw [leading?_of_forall (octetsOf_ne_nil 10 n) fun b hb => (of_mem_octetsOf_ten n b hb).1,
    value_octetsOf (by decide) (by decide)]

theorem skipSpace_cons {first : UInt8} (h : isSpace first = false) (rest : List UInt8) :
    skipSpace (first :: rest) = first :: rest :=
  List.dropWhile_cons_of_neg (by rw [h]; exact Bool.false_ne_true)

theorem takeSign_cons {first : UInt8} (h : isSign first = false) (rest : List UInt8) :
    takeSign (first :: rest) = (false, first :: rest) := by
  rw [takeSign, h, if_neg Bool.false_ne_true]

/-- Digits have no space and no sign in front. -/
theorem takeSign_skipSpace_octetsOf (n : Nat) :
    skipSpace (octetsOf 10 n) = octetsOf 10 n ∧
      takeSign (octetsOf 10 n) = (false, octetsOf 10 n) := by
  obtain ⟨first, rest, hcons⟩ := List.exists_cons_of_ne_nil (octetsOf_ne_nil 10 n)
  have hfirst := of_mem_octetsOf_ten n first (by rw [hcons]; exact List.mem_cons_self)
  rw [hcons]
  exact ⟨skipSpace_cons hfirst.2.1 rest, takeSign_cons hfirst.2.2.1 rest⟩

theorem unsigned?_octetsOf {limit : Nat} (h : n ≤ limit) :
    unsigned? limit (octetsOf 10 n) = some n := by
  rw [unsigned?, (takeSign_skipSpace_octetsOf n).1]
  split
  · rename_i rest hplus
    have hsign := (of_mem_octetsOf_ten n 0x2B (by rw [hplus]; exact List.mem_cons_self)).2.2.1
    exact absurd hsign (by decide)
  · rw [leading?_octetsOf]
    exact Option.filter_some_pos (decide_eq_true h)

theorem signed?_octetsOf (h : n < 0x80000000) : signed? (octetsOf 10 n) = some (n : Int) := by
  obtain ⟨hspace, hsign⟩ := takeSign_skipSpace_octetsOf n
  rw [signed?, hspace, hsign]
  dsimp only
  rw [leading?_octetsOf, Option.bind_some, if_neg Bool.false_ne_true, if_pos h]

theorem signed?_minus_octetsOf (h : n ≤ 0x80000000) :
    signed? (0x2D :: octetsOf 10 n) = some (-n : Int) := by
  have hspace : skipSpace (0x2D :: octetsOf 10 n) = 0x2D :: octetsOf 10 n :=
    skipSpace_cons (by decide) _
  have hsign : takeSign (0x2D :: octetsOf 10 n) = (true, octetsOf 10 n) := by
    rw [takeSign, if_pos (by decide)]
    rfl
  rw [signed?, hspace, hsign]
  dsimp only
  rw [leading?_octetsOf, Option.bind_some, if_pos rfl, if_pos h]

/-- The zeros of a fixed width are digits, too. -/
theorem mask?_octetsOf (count : Nat) (h : n < UInt32.size) :
    mask? (List.replicate count (octet 0) ++ octetsOf 16 n) = some n := by
  have hmem : ∀ b ∈ List.replicate count (octet 0) ++ octetsOf 16 n,
      isHexDigit b = true ∧ isSpace b = false ∧ b ≠ 0x78 ∧ b ≠ 0x58 := by
    intro b hb
    rcases List.mem_append.1 hb with hzero | hdigit
    · rw [List.eq_of_mem_replicate hzero]
      decide
    · obtain ⟨hhex, hspace, hlower, hupper, -⟩ := of_mem_octetsOf_sixteen n b hdigit
      exact ⟨hhex, hspace, hlower, hupper⟩
  have hne : List.replicate count (octet 0) ++ octetsOf 16 n ≠ [] :=
    List.append_ne_nil_of_right_ne_nil _ (octetsOf_ne_nil 16 n)
  have hvalue : value 16 (List.replicate count (octet 0) ++ octetsOf 16 n) = n := by
    rw [value_replicate_zero_append, value_octetsOf (by decide) (by decide)]
  generalize List.replicate count (octet 0) ++ octetsOf 16 n = line at hmem hne hvalue
  have hspace : skipSpace line = line := by
    obtain ⟨first, rest, rfl⟩ := List.exists_cons_of_ne_nil hne
    exact skipSpace_cons (hmem first List.mem_cons_self).2.1 rest
  rw [mask?, hspace]
  split
  · exact absurd rfl (hmem 0x78 (by simp)).2.2.1
  · exact absurd rfl (hmem 0x58 (by simp)).2.2.2
  · rw [leading?_of_forall hne fun b hb => (hmem b hb).1, hvalue]
    exact Option.filter_some_pos (decide_eq_true h)

/-- Zeros are a numeral without a point and without an exponent. -/
theorem real?_replicate_zero (count : Nat) :
    real? (List.replicate (count + 1) (octet 0)) =
      some ⟨false, List.replicate (count + 1) (octet 0), [], false, []⟩ := by
  have hdigits : ∀ b ∈ List.replicate (count + 1) (octet 0), isDigit b = true := by
    intro b hb
    rw [List.eq_of_mem_replicate hb]
    decide
  have hspace : skipSpace (List.replicate (count + 1) (octet 0)) =
      List.replicate (count + 1) (octet 0) := skipSpace_cons (by decide) _
  have hsign : signEnd (List.replicate (count + 1) (octet 0)) 0 = 0 := by
    simp [signEnd, List.replicate_succ, show isSign (octet 0) = false by decide]
  have hpoint : digitsEnd? (List.replicate (count + 1) (octet 0)) 0 = some (count + 1) := by
    simp [digitsEnd?, from?, List.takeWhile_eq_self_iff.2 hdigits]
  have hend : realEnd? (List.replicate (count + 1) (octet 0)) = some (some (count + 1)) := by
    rw [realEnd?, hsign, hpoint]
    simp [pointEnd?, exponentEnd?]
  have hparts : takeSign (List.replicate (count + 1) (octet 0)) =
      (false, List.replicate (count + 1) (octet 0)) := takeSign_cons (by decide) _
  simp only [real?, hspace, hend, Option.join_some, Option.map_some]
  rw [List.take_of_length_le (by simp), realParts, hparts]
  simp only [List.takeWhile_eq_self_iff.2 hdigits, List.dropWhile_eq_nil_iff.2 hdigits]
  rfl

end Numeral

/-! ## Texts -/

namespace Text

open Numeral

theorem encode_digits {base : Nat} (hbase : 1 < base) (hmax : base ≤ 16) (n : Nat) :
    Utf8.encode (String.ofList (Nat.toDigits base n)) = octetsOf base n :=
  Utf8.encode_ofList <| forall_mem_toDigits hbase
    (fun digit h => toNat_digitChar_lt digit (Nat.lt_of_lt_of_le h hmax)) n

theorem encode_decimal (n : Nat) : Utf8.encode (decimal 1 n) = octetsOf 10 n := by
  rw [decimal, fillLeft_of_le Nat.length_toDigits_pos, encode_digits (by decide) (by decide)]

theorem encode_integer (n : Int) : Utf8.encode (integer n) =
    (if n < 0 then [0x2D] else []) ++ octetsOf 10 n.natAbs := by
  cases n with
  | ofNat n => exact encode_decimal n
  | negSucc n =>
    rw [integer, Utf8.encode, String.toList_append, List.flatMap_append,
      if_pos (Int.negSucc_lt_zero n)]
    exact congrArg ([0x2D] ++ ·) (encode_decimal (n + 1))

/-- The digits of a fixed width stand behind zeros. -/
theorem encode_hexadecimal (width n : Nat) : Utf8.encode (hexadecimal width n) =
    List.replicate (width - (octetsOf 16 n).length) (octet 0) ++ octetsOf 16 n := by
  have hzeros (count : Nat) : ∀ c ∈ List.replicate count '0', c.toNat < 0x80 := by
    intro c hc
    rw [List.eq_of_mem_replicate hc]
    decide
  have hdigits : ∀ c ∈ Nat.toDigits 16 n, c.toNat < 0x80 :=
    forall_mem_toDigits (by decide) toNat_digitChar_lt n
  rw [hexadecimal, fillLeft,
    Utf8.encode_ofList (List.forall_mem_append.2 ⟨hzeros _, hdigits⟩), List.map_append,
    List.map_replicate, octetsOf, List.length_map]
  rfl

end Text
end GameBox
