import GameBox.Proofs.Reading.Decimal
import GameBox.Proofs.Real.Rounding
import GameBox.Proofs.Text.LongestReal

/-!
# Reals are read as long as possible

A line where a real is expected is read in two steps: the longest numeral that it begins with is
found, and then rounded.  The first step may fail, the second never does.  Every numeral denotes a
number, and every number is rounded to a real, if only to infinity.

A numeral may have so many digits in its exponent that nobody wants to compute the power.  The
reader stops counting at a bound, beyond which a number is too large or too small in any case.  This
is right as long as the numeral does not make up for it by as many digits elsewhere, and the lines
of a file are too short for that by far.

* `RealNumeral.magnitude`: what a numeral denotes, apart from its sign.
* `Binary32.rounds_magnitude_ofNumeral`: what it is rounded to.
* `Numeral.longest_real_read`: lines that are read, and lines that are refused.
-/

namespace GameBox

/-- What a numeral denotes apart from its sign, if its exponent is taken for a number. -/
def RealNumeral.magnitudeWith (x : RealNumeral) (exponent : ℕ) : ℚ :=
  Numeral.placeValue 10 (x.whole ++ x.fraction) *
    10 ^ ((if x.exponentNegative then -(exponent : ℤ) else exponent) - x.fraction.length)

/-- What a numeral denotes apart from its sign. -/
def RealNumeral.magnitude (x : RealNumeral) : ℚ :=
  x.magnitudeWith (Numeral.placeValue 10 x.exponent)

namespace Numeral

theorem digitValue_lt {b : UInt8} (h : isDigit b = true) : digitValue b < 10 := by
  simp only [isDigit, Bool.and_eq_true, decide_eq_true_eq] at h
  have hhigh : b.toNat ≤ 57 := h.2
  rw [digitValue, if_pos h.2]
  omega

/-- Digits denote a number of as many places. -/
theorem placeValue_lt {digits : List UInt8} (h : ∀ b ∈ digits, isDigit b = true) :
    placeValue 10 digits < 10 ^ digits.length := by
  induction digits with
  | nil => exact Nat.one_pos
  | cons b bs ih =>
    have hb := digitValue_lt (h b List.mem_cons_self)
    have hbs := ih fun c hc => h c (List.mem_cons_of_mem b hc)
    rw [placeValue, List.length_cons, pow_succ']
    calc digitValue b * 10 ^ bs.length + placeValue 10 bs
        < digitValue b * 10 ^ bs.length + 10 ^ bs.length := Nat.add_lt_add_left hbs _
      _ = (digitValue b + 1) * 10 ^ bs.length := by ring
      _ ≤ 10 * 10 ^ bs.length := Nat.mul_le_mul_right _ hb

end Numeral

open Numeral

/-! ## Exponents that are counted to a bound -/

namespace Binary32

variable {x : RealNumeral} {text : List UInt8}

/-- Once the bound is reached, no digit counts. -/
theorem foldl_count_of_le {n : ℕ} (h : exponentBound ≤ n) (digits : List UInt8) :
    digits.foldl (fun n b => if n < exponentBound then n * 10 + digitValue b else n) n = n := by
  induction digits with
  | nil => rfl
  | cons b bs ih => rw [List.foldl_cons, if_neg (Nat.not_lt.2 h), ih]

/-- A number that is counted on is what its digits denote, or both are beyond the bound. -/
theorem foldl_count_eq_or (n : ℕ) (digits : List UInt8) :
    digits.foldl (fun n b => if n < exponentBound then n * 10 + digitValue b else n) n =
        n * 10 ^ digits.length + placeValue 10 digits ∨
      exponentBound ≤
          digits.foldl (fun n b => if n < exponentBound then n * 10 + digitValue b else n) n ∧
        exponentBound ≤ n * 10 ^ digits.length + placeValue 10 digits := by
  induction digits generalizing n with
  | nil => simp [placeValue]
  | cons b bs ih =>
    by_cases hn : n < exponentBound
    · have hplaces : n * 10 ^ (b :: bs).length + placeValue 10 (b :: bs) =
          (n * 10 + digitValue b) * 10 ^ bs.length + placeValue 10 bs := by
        rw [placeValue, List.length_cons]
        ring
      rw [List.foldl_cons, if_pos hn, hplaces]
      exact ih _
    · right
      rw [foldl_count_of_le (Nat.not_lt.1 hn)]
      have hle := Nat.le_mul_of_pos_right n (by positivity : 0 < 10 ^ (b :: bs).length)
      omega

theorem exponentValue_eq_or (digits : List UInt8) :
    exponentValue digits = placeValue 10 digits ∨
      exponentBound ≤ exponentValue digits ∧ exponentBound ≤ placeValue 10 digits := by
  have h := foldl_count_eq_or 0 digits
  rwa [Nat.zero_mul, Nat.zero_add] at h

/-- The digits of a numeral before its exponent, of which there are no more than octets. -/
theorem digits_of_spells (h : x.Spells text) :
    (∀ b ∈ x.whole ++ x.fraction, isDigit b = true) ∧
      x.whole.length + x.fraction.length ≤ text.length := by
  obtain ⟨hsign, hdecimal, hexponent⟩ := h
  cases hdecimal with
  | whole hwhole =>
    refine ⟨by simpa using hwhole.forall_mem, ?_⟩
    simp only [List.length_append, List.length_nil]
    omega
  | point hwhole hfraction =>
    refine ⟨fun b hb => (List.mem_append.1 hb).elim (hwhole.forall_mem b) (hfraction b), ?_⟩
    simp only [List.length_append, List.length_cons]
    omega
  | bare hfraction =>
    refine ⟨hfraction.forall_mem, ?_⟩
    simp only [List.length_append, List.length_cons, List.length_nil]
    omega

/-- Beyond the bound, the exponent makes no difference any more. -/
theorem exists_forall_rounds (h : x.Spells text) (hlength : text.length + 51 ≤ exponentBound) :
    ∃ m, ∀ exponent, exponentBound ≤ exponent → Rounds (x.magnitudeWith exponent) m := by
  obtain ⟨hdigits, hle⟩ := digits_of_spells h
  have hlt := placeValue_lt hdigits
  rw [List.length_append] at hlt
  unfold RealNumeral.magnitudeWith
  generalize placeValue 10 (x.whole ++ x.fraction) = n at hlt
  by_cases hn : n = 0
  · refine ⟨0, fun exponent _ => ?_⟩
    rw [hn, Nat.cast_zero, zero_mul]
    exact rounds_of_tiny le_rfl (by positivity)
  · cases x.exponentNegative with
    | false =>
      refine ⟨infiniteBits, fun exponent hexponent => .inr ⟨?_, rfl⟩⟩
      have hone : (1 : ℚ) ≤ n := by exact_mod_cast Nat.one_le_iff_ne_zero.2 hn
      calc overflowBound ≤ (10 : ℚ) ^ (51 : ℤ) := by norm_num [overflowBound]
        _ ≤ 10 ^ ((exponent : ℤ) - x.fraction.length) :=
          zpow_le_zpow_right₀ (by norm_num) (by omega)
        _ ≤ n * 10 ^ ((exponent : ℤ) - x.fraction.length) :=
          le_mul_of_one_le_left (by positivity) hone
    | true =>
      refine ⟨0, fun exponent hexponent => rounds_of_tiny (by positivity) ?_⟩
      have hn' : (n : ℚ) < 10 ^ ((x.whole.length + x.fraction.length : ℕ) : ℤ) := by
        rw [zpow_natCast]
        exact_mod_cast hlt
      calc (n : ℚ) * 10 ^ (-(exponent : ℤ) - x.fraction.length)
          < 10 ^ ((x.whole.length + x.fraction.length : ℕ) : ℤ) *
              10 ^ (-(exponent : ℤ) - x.fraction.length) :=
            mul_lt_mul_of_pos_right hn' (by positivity)
        _ = 10 ^ ((x.whole.length : ℤ) - exponent) := by
          rw [← zpow_add₀ (by norm_num)]
          congr 1
          push_cast
          ring
        _ ≤ 10 ^ (-51 : ℤ) := zpow_le_zpow_right₀ (by norm_num) (by omega)
        _ ≤ 2 ^ (-150 : ℤ) := by norm_num

/-- A numeral is rounded to the nearest real that has its sign. -/
theorem rounds_ofNumeral (x : RealNumeral) :
    Rounds (x.magnitudeWith (exponentValue x.exponent)) (ofNumeral x).magnitude ∧
      (ofNumeral x).isNegative = x.negative := by
  have hrounds := rounds_ofScaled (placeValue 10 (x.whole ++ x.fraction))
    ((if x.exponentNegative then -(exponentValue x.exponent : ℤ) else exponentValue x.exponent) -
      x.fraction.length)
  have hlt := hrounds.le.trans_lt (by decide : infiniteBits < signBit)
  rw [ofNumeral, value_eq_placeValue]
  refine ⟨?_, isNegative_ofSign hlt⟩
  rw [magnitude_ofSign hlt]
  exact hrounds

/-- And this is the nearest to what it denotes, unless the numeral is longer than any line. -/
theorem rounds_magnitude_ofNumeral (h : x.Spells text)
    (hlength : text.length + 51 ≤ exponentBound) :
    Rounds x.magnitude (ofNumeral x).magnitude := by
  have hrounds := (rounds_ofNumeral x).1
  unfold RealNumeral.magnitude
  rcases exponentValue_eq_or x.exponent with heq | ⟨hcounted, hdenoted⟩
  · rwa [← heq]
  · obtain ⟨m, hm⟩ := exists_forall_rounds h hlength
    obtain rfl := hrounds.unique (hm _ hcounted)
    exact hm _ hdenoted

end Binary32

/-! ## Lines -/

/-- **The longest real numeral is read, and nothing fails later.**  The scanner finds the end of the
longest real numeral that a line begins with, and it never looks past the end of the line.  A line
that begins with no numeral is refused, with an error that shows all of it.  Any other is read as
the real of its longest numeral, with the sign and the nearest magnitude, and a number that is too
large becomes infinite. -/
theorem Numeral.longest_real_read (line : List UInt8) :
    (∃ found, realEnd? (skipSpace line) = some found ∧ ∀ stop, found = some stop ↔
      ∃ piece, IsLongest IsReal (skipSpace line) piece ∧ piece.length = stop) ∧
    (∀ error, (Field.real.scan real? line).map Binary32.ofNumeral = .error error ↔
      error = .invalidText .real (Utf8.decode line) ∧
        ∀ piece, piece <+: skipSpace line → ¬IsReal piece) ∧
    (∀ y, (Field.real.scan real? line).map Binary32.ofNumeral = .ok y ↔
      ∃ piece x, IsLongest IsReal (skipSpace line) piece ∧ x.Spells piece ∧
        y = Binary32.ofNumeral x) ∧
    ∀ (piece : List UInt8) (x : RealNumeral), x.Spells piece →
      (Binary32.ofNumeral x).isNegative = x.negative ∧
      Binary32.Rounds (x.magnitudeWith (Binary32.exponentValue x.exponent))
        (Binary32.ofNumeral x).magnitude ∧
      (piece.length + 51 ≤ Binary32.exponentBound →
        Binary32.Rounds x.magnitude (Binary32.ofNumeral x).magnitude ∧
        ((Binary32.ofNumeral x).isInfinite ↔ Binary32.overflowBound ≤ x.magnitude)) := by
  refine ⟨?_, fun error => ?_, fun y => ?_, fun piece x hx => ?_⟩
  · obtain ⟨found, hend, h⟩ := exists_realEnd? (skipSpace line)
    refine ⟨found, hend, fun stop => ?_⟩
    rcases h with ⟨rfl, hnone⟩ | ⟨piece, rfl, hlongest⟩
    · refine iff_of_false (by simp) ?_
      rintro ⟨piece, hlongest, -⟩
      exact hnone piece hlongest.begins hlongest.allowed
    · rw [Option.some.injEq]
      constructor
      · rintro rfl
        exact ⟨piece, hlongest, rfl⟩
      · rintro ⟨other, hother, rfl⟩
        rw [hlongest.eq hother]
  · rw [← real?_eq_none_iff, ← Field.scan_eq_error_iff]
    cases Field.real.scan real? line <;> simp [Except.map]
  · have hread : (Field.real.scan real? line).map Binary32.ofNumeral = .ok y ↔
        ∃ x, real? line = some x ∧ y = Binary32.ofNumeral x := by
      have hscan : ∀ x, real? line = some x ↔ Field.real.scan real? line = .ok x :=
        fun x => Field.scan_eq_ok_iff.symm
      simp only [hscan]
      cases Field.real.scan real? line <;> simp [Except.map, eq_comm]
    rw [hread]
    constructor
    · rintro ⟨x, hx, rfl⟩
      obtain ⟨piece, hlongest, hspells⟩ := real?_eq_some_iff.1 hx
      exact ⟨piece, x, hlongest, hspells, rfl⟩
    · rintro ⟨piece, x, hlongest, hspells, rfl⟩
      exact ⟨x, real?_eq_some_iff.2 ⟨piece, hlongest, hspells⟩, rfl⟩
  · obtain ⟨hrounds, hsign⟩ := Binary32.rounds_ofNumeral x
    refine ⟨hsign, hrounds, fun hlength => ?_⟩
    have hmagnitude := Binary32.rounds_magnitude_ofNumeral hx hlength
    refine ⟨hmagnitude, ?_⟩
    rw [Binary32.isInfinite, decide_eq_true_eq]
    exact hmagnitude.eq_infiniteBits_iff

/-- An exponent without digits is left alone. -/
example : (Field.real.scan real? "-.25e+x".toUTF8.data.toList).map Binary32.ofNumeral =
    .ok ⟨0xBE800000⟩ := rfl

end GameBox
