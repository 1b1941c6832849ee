import GameBox.Real.Binary32
import Mathlib.Algebra.Order.Field.Power
import Mathlib.Tactic.FieldSimp
import Mathlib.Tactic.Linarith
import Mathlib.Tactic.Positivity
import Mathlib.Tactic.Ring

/-!
# The nearest real

What a numeral denotes is rational, and a real of 32 bits is the nearest to it of finitely many.
Magnitudes are natural numbers, in the order of what they stand for, and so one can speak of the
magnitude behind another: a rational number is between two neighbours, and the nearer of them is
nearer than any other.

The neighbours are found by their exponent.  A number between two powers of two is measured in units
of the mantissa, and its integral part counts the magnitudes from the lower power on.  The last
mantissa with the unit of one exponent is the first with the next, which is why nothing has to be
said about carries (`toRat_add`).

Infinity is treated as the magnitude behind the greatest finite one, as if it stood for the next
power of two.  The midpoint before it is where numbers begin to be infinite.

* `Binary32.toRat`: what a magnitude stands for.
* `Binary32.IsNearest`, `Binary32.overflowBound`, `Binary32.Rounds`: what rounding should do.
* `Binary32.exists_neighbours`: the neighbours of a quotient, and the one that is taken.
* `Binary32.Rounds.unique`: no two magnitudes are nearest.
* `Binary32.rounds_ofRatio`, `Binary32.rounds_ofScaled`: quotients and decimal numbers are rounded.
-/

namespace GameBox
namespace Binary32

variable {q : ℚ} {k m r num den : ℕ}

/-! ## What rounding should do -/

/-- What a finite magnitude stands for. -/
def toRat (magnitude : ℕ) : ℚ :=
  (parts magnitude).mantissa * 2 ^ (((parts magnitude).power : ℤ) - 149)

/-- A finite magnitude that no other is nearer to a number than, and none as near, except that of
two the even one is. -/
def IsNearest (q : ℚ) (magnitude : ℕ) : Prop :=
  magnitude < infiniteBits ∧ ∀ other < infiniteBits, other ≠ magnitude →
    |q - toRat magnitude| < |q - toRat other| ∨
      |q - toRat magnitude| = |q - toRat other| ∧ magnitude % 2 = 0

/-- The midpoint between the greatest finite magnitude and the next power of two. -/
def overflowBound : ℚ := 2 ^ 128 - 2 ^ 103

/-- The magnitude of the real that a number should be rounded to. -/
def Rounds (q : ℚ) (magnitude : ℕ) : Prop :=
  q < overflowBound ∧ IsNearest q magnitude ∨ overflowBound ≤ q ∧ magnitude = infiniteBits

/-! ## Magnitudes in their order -/

theorem parts_of_lt (h : m < hiddenBit) : parts m = ⟨m, 0⟩ := if_pos h

theorem parts_of_le (h : hiddenBit ≤ m) :
    parts m = ⟨m % hiddenBit + hiddenBit, m / hiddenBit - 1⟩ := if_neg (Nat.not_lt.2 h)

/-- Mantissas of one power stand for multiples of the same unit, up to the first of the next. -/
theorem toRat_add {power mantissa : ℕ} (hlow : power = 0 ∨ hiddenBit ≤ mantissa)
    (hhigh : mantissa ≤ 2 * hiddenBit) :
    toRat (power * hiddenBit + mantissa) = mantissa * 2 ^ ((power : ℤ) - 149) := by
  rw [toRat]
  by_cases hhidden : mantissa < hiddenBit
  · obtain rfl : power = 0 := hlow.resolve_right (Nat.not_le.2 hhidden)
    rw [Nat.zero_mul, Nat.zero_add, parts_of_lt hhidden]
  · rw [parts_of_le (by omega)]
    rcases Nat.lt_or_eq_of_le hhigh with hlt | rfl
    · have hmantissa : (power * hiddenBit + mantissa) % hiddenBit + hiddenBit = mantissa := by
        simp only [hiddenBit] at *
        omega
      have hpower : (power * hiddenBit + mantissa) / hiddenBit - 1 = power := by
        simp only [hiddenBit] at *
        omega
      rw [hmantissa, hpower]
    · have hmantissa : (power * hiddenBit + 2 * hiddenBit) % hiddenBit + hiddenBit = hiddenBit := by
        simp only [hiddenBit]
        omega
      have hpower : (power * hiddenBit + 2 * hiddenBit) / hiddenBit - 1 = power + 1 := by
        simp only [hiddenBit]
        omega
      have hunit : ((power + 1 : ℕ) : ℤ) - 149 = (power : ℤ) - 149 + 1 := by omega
      rw [hmantissa, hpower, hunit, zpow_add_one₀ two_ne_zero]
      push_cast
      ring

/-- Every magnitude is one of the mantissas of a power, and not the last one. -/
theorem exists_power (m : ℕ) : ∃ power mantissa, m = power * hiddenBit + mantissa ∧
    (power = 0 ∨ hiddenBit ≤ mantissa) ∧ mantissa < 2 * hiddenBit := by
  simp only [hiddenBit]
  by_cases h : m < 8388608
  · exact ⟨0, m, by omega, .inl rfl, by omega⟩
  · exact ⟨m / 8388608 - 1, m % 8388608 + 8388608, by omega, .inr (by omega), by omega⟩

theorem toRat_lt_succ (m : ℕ) : toRat m < toRat (m + 1) := by
  obtain ⟨power, mantissa, rfl, hlow, hhigh⟩ := exists_power m
  have hunit : (0 : ℚ) < 2 ^ ((power : ℤ) - 149) := by positivity
  rw [Nat.add_assoc, toRat_add hlow hhigh.le,
    toRat_add (hlow.imp_right fun h => Nat.le_succ_of_le h) hhigh]
  push_cast
  linarith

theorem toRat_strictMono : StrictMono toRat := strictMono_nat_of_lt_succ toRat_lt_succ

@[simp] theorem toRat_zero : toRat 0 = 0 := by
  simp [toRat, parts, hiddenBit]

/-- The midpoint before infinity. -/
theorem toRat_add_toRat_infiniteBits :
    toRat (infiniteBits - 1) + toRat infiniteBits = 2 * overflowBound := by
  norm_num [toRat, parts, hiddenBit, infiniteBits, overflowBound]

/-! ## The nearer neighbour -/

/-- Which of two neighbours is nearer to a number: the one with an index, or the next one.  If they
are equally near, then it is the one with the even index. -/
inductive Nearer (q low high : ℚ) (k : ℕ) : ℕ → Prop
  | down (h : q - low < high - q) : Nearer q low high k k
  | up (h : high - q < q - low) : Nearer q low high k (k + 1)
  | tie (h : q - low = high - q) : Nearer q low high k (k + k % 2)

theorem Nearer.le {low high : ℚ} (h : Nearer q low high k r) : k ≤ r := by
  cases h <;> omega

theorem Nearer.le_succ {low high : ℚ} (h : Nearer q low high k r) : r ≤ k + 1 := by
  cases h <;> omega

/-- Neither a unit nor an even number of further indices makes a difference. -/
theorem Nearer.scale {low high unit : ℚ} {base : ℕ} (h : Nearer q low high k r) (hunit : 0 < unit)
    (hbase : base % 2 = 0) :
    Nearer (q * unit) (low * unit) (high * unit) (base + k) (base + r) := by
  have hlow : q * unit - low * unit = (q - low) * unit := by ring
  have hhigh : high * unit - q * unit = (high - q) * unit := by ring
  cases h with
  | down h =>
    refine .down ?_
    rw [hlow, hhigh]
    exact mul_lt_mul_of_pos_right h hunit
  | up h =>
    rw [← Nat.add_assoc]
    refine .up ?_
    rw [hlow, hhigh]
    exact mul_lt_mul_of_pos_right h hunit
  | tie h =>
    have hparity : base + (k + k % 2) = base + k + (base + k) % 2 := by omega
    rw [hparity]
    refine .tie ?_
    rw [hlow, hhigh, h]

/-- The nearest natural number is one of those next to a quotient. -/
theorem nearer_roundQuotient (num : ℕ) (hden : 0 < den) :
    ((num / den : ℕ) : ℚ) ≤ num / den ∧ (num / den : ℚ) < (num / den : ℕ) + 1 ∧
      Nearer (num / den) (num / den : ℕ) ((num / den : ℕ) + 1) (num / den)
        (roundQuotient num den) := by
  have hpos : (0 : ℚ) < den := by exact_mod_cast hden
  have hsplit : (num : ℚ) / den = (num / den : ℕ) + (num % den : ℕ) / den := by
    have hnum : (num : ℚ) = den * (num / den : ℕ) + (num % den : ℕ) := by
      exact_mod_cast (Nat.div_add_mod num den).symm
    rw [eq_comm, eq_div_iff hpos.ne', add_mul, div_mul_cancel₀ _ hpos.ne', hnum, mul_comm]
  have hrest : (0 : ℚ) ≤ (num % den : ℕ) / den := by positivity
  have hless : ((num % den : ℕ) : ℚ) / den < 1 := by
    rw [div_lt_one hpos]
    exact_mod_cast Nat.mod_lt num hden
  refine ⟨by linarith, by linarith, ?_⟩
  have htwice : (2 * (num % den) : ℕ) / (den : ℚ) = 2 * ((num % den : ℕ) / den) := by
    push_cast
    ring
  unfold roundQuotient
  dsimp only
  split
  · rename_i hsmall
    have hlt : ((2 * (num % den) : ℕ) : ℚ) / den < 1 := by
      rw [div_lt_one hpos]
      exact_mod_cast hsmall
    exact .down (by linarith)
  · split
    · rename_i hlarge
      have hlt : 1 < ((2 * (num % den) : ℕ) : ℚ) / den := by
        rw [one_lt_div hpos]
        exact_mod_cast hlarge
      exact .up (by linarith)
    · have hhalf : ((2 * (num % den) : ℕ) : ℚ) / den = 1 := by
        rw [div_eq_one_iff_eq hpos.ne']
        exact_mod_cast (by omega : 2 * (num % den) = den)
      exact .tie (by linarith)

/-- How near the magnitudes on both sides of a number are to it. -/
theorem abs_sub_toRat_of_le (hlow : toRat k ≤ q) (hm : m ≤ k) : |q - toRat m| = q - toRat m :=
  abs_of_nonneg (sub_nonneg.2 ((toRat_strictMono.monotone hm).trans hlow))

theorem abs_sub_toRat_of_lt (hhigh : q < toRat (k + 1)) (hm : k < m) :
    |q - toRat m| = toRat m - q := by
  rw [abs_sub_comm]
  exact abs_of_nonneg (sub_nonneg.2 (hhigh.le.trans (toRat_strictMono.monotone hm)))

/-- The nearer of two neighbours is nearer than any other magnitude, too. -/
theorem Nearer.isNearest (hlow : toRat k ≤ q) (hhigh : q < toRat (k + 1))
    (h : Nearer q (toRat k) (toRat (k + 1)) k r) (hr : r < infiniteBits) : IsNearest q r := by
  refine ⟨hr, fun other _ hne => ?_⟩
  have hbelow : ∀ m ≤ k, |q - toRat m| = q - toRat m := fun m => abs_sub_toRat_of_le hlow
  have habove : ∀ m, k < m → |q - toRat m| = toRat m - q := fun m => abs_sub_toRat_of_lt hhigh
  cases h with
  | down h =>
    left
    rw [hbelow k le_rfl]
    rcases Nat.lt_or_gt_of_ne hne with hlt | hgt
    · rw [hbelow other hlt.le]
      linarith [toRat_strictMono hlt]
    · rw [habove other hgt]
      linarith [toRat_strictMono.monotone (Nat.succ_le_of_lt hgt)]
  | up h =>
    left
    rw [habove (k + 1) (Nat.lt_succ_self k)]
    rcases Nat.lt_or_gt_of_ne hne with hlt | hgt
    · rw [hbelow other (Nat.le_of_lt_succ hlt)]
      linarith [toRat_strictMono.monotone (Nat.le_of_lt_succ hlt)]
    · rw [habove other (Nat.lt_of_succ_lt hgt)]
      linarith [toRat_strictMono hgt]
  | tie h =>
    have heven : (k + k % 2) % 2 = 0 := by omega
    have hdistance : |q - toRat (k + k % 2)| = q - toRat k := by
      rcases Nat.mod_two_eq_zero_or_one k with hzero | hone
      · rw [hzero]
        exact hbelow k le_rfl
      · rw [hone, habove (k + 1) (Nat.lt_succ_self k), h]
    have hle : |q - toRat (k + k % 2)| ≤ |q - toRat other| := by
      rw [hdistance]
      rcases Nat.lt_or_ge k other with hgt | hle
      · rw [habove other hgt]
        linarith [toRat_strictMono.monotone (Nat.succ_le_of_lt hgt)]
      · rw [hbelow other hle]
        linarith [toRat_strictMono.monotone hle]
    exact (lt_or_eq_of_le hle).imp_right fun heq => ⟨heq, heven⟩

/-- Among the neighbours, infinity is taken from the midpoint before it on. -/
theorem Nearer.lt_infiniteBits_iff (hlow : toRat k ≤ q) (hhigh : q < toRat (k + 1))
    (h : Nearer q (toRat k) (toRat (k + 1)) k r) : r < infiniteBits ↔ q < overflowBound := by
  have hmiddle := toRat_add_toRat_infiniteBits
  have hlast : toRat (infiniteBits - 1) < toRat infiniteBits := toRat_strictMono (by decide)
  rcases Nat.lt_trichotomy (k + 1) infiniteBits with hlt | heq | hgt
  · have hle : toRat (k + 1) ≤ toRat (infiniteBits - 1) :=
      toRat_strictMono.monotone (Nat.le_pred_of_lt hlt)
    exact iff_of_true (h.le_succ.trans_lt hlt) (by linarith)
  · obtain rfl : k = infiniteBits - 1 := Nat.eq_sub_of_add_eq heq
    rw [heq] at h
    cases h with
    | down h => exact iff_of_true (by decide) (by linarith)
    | up h => exact iff_of_false (by decide) (by linarith)
    | tie h => exact iff_of_false (by decide) (by linarith)
  · have hle : toRat infiniteBits ≤ toRat k := toRat_strictMono.monotone (Nat.le_of_lt_succ hgt)
    exact iff_of_false ((Nat.le_of_lt_succ hgt).trans h.le).not_gt (by linarith)

theorem Nearer.rounds (hlow : toRat k ≤ q) (hhigh : q < toRat (k + 1))
    (h : Nearer q (toRat k) (toRat (k + 1)) k r) : Rounds q (min r infiniteBits) := by
  rcases lt_or_ge q overflowBound with hlt | hge
  · have hr := (h.lt_infiniteBits_iff hlow hhigh).2 hlt
    rw [min_eq_left hr.le]
    exact .inl ⟨hlt, h.isNearest hlow hhigh hr⟩
  · have hr := mt (h.lt_infiniteBits_iff hlow hhigh).1 hge.not_gt
    exact .inr ⟨hge, min_eq_right (not_lt.1 hr)⟩

/-! ## Quotients -/

/-- A quotient that is shifted by a power of two, on the side where it is no fraction. -/
theorem shiftLeft_div_shiftLeft (num den : ℕ) (z : ℤ) :
    ((num <<< (-z).toNat : ℕ) : ℚ) / (den <<< z.toNat : ℕ) = num / den / 2 ^ z := by
  obtain ⟨n, rfl | rfl⟩ := z.eq_nat_or_neg
  · simp [Nat.shiftLeft_eq, div_div]
  · simp [Nat.shiftLeft_eq, div_mul_eq_mul_div]

theorem shiftLeft_le_shiftLeft_iff (hden : 0 < den) (z : ℤ) :
    den <<< z.toNat ≤ num <<< (-z).toNat ↔ (2 : ℚ) ^ z ≤ num / den := by
  have hshift : 0 < den <<< z.toNat := by
    rw [Nat.shiftLeft_eq]
    positivity
  have hpos : (0 : ℚ) < (den <<< z.toNat : ℕ) := by exact_mod_cast hshift
  rw [← one_le_div₀ (by positivity : (0 : ℚ) < 2 ^ z), ← shiftLeft_div_shiftLeft, one_le_div₀ hpos,
    Nat.cast_le]

/-- The exponent of a quotient. -/
theorem zpow_exponentOf (hnum : 0 < num) (hden : 0 < den) :
    (2 : ℚ) ^ exponentOf num den ≤ num / den ∧
      (num / den : ℚ) < 2 ^ (exponentOf num den + 1) := by
  have hpos : (0 : ℚ) < den := by exact_mod_cast hden
  have hnumLow : (2 : ℚ) ^ (Nat.log2 num : ℤ) ≤ num := by
    exact_mod_cast Nat.log2_self_le hnum.ne'
  have hnumHigh : (num : ℚ) < 2 ^ (Nat.log2 num + 1 : ℤ) := by
    exact_mod_cast Nat.lt_log2_self
  have hdenLow : (2 : ℚ) ^ (Nat.log2 den : ℤ) ≤ den := by
    exact_mod_cast Nat.log2_self_le hden.ne'
  have hdenHigh : (den : ℚ) < 2 ^ (Nat.log2 den + 1 : ℤ) := by
    exact_mod_cast Nat.lt_log2_self
  unfold exponentOf
  dsimp only
  split
  · rename_i h
    refine ⟨(shiftLeft_le_shiftLeft_iff hden _).1 h, ?_⟩
    rw [div_lt_iff₀ hpos]
    calc (num : ℚ) < 2 ^ (Nat.log2 num + 1 : ℤ) := hnumHigh
      _ = 2 ^ ((Nat.log2 num : ℤ) - Nat.log2 den + 1) * 2 ^ (Nat.log2 den : ℤ) := by
        rw [← zpow_add₀ two_ne_zero]
        congr 1
        ring
      _ ≤ 2 ^ ((Nat.log2 num : ℤ) - Nat.log2 den + 1) * den := by gcongr
  · rename_i h
    rw [shiftLeft_le_shiftLeft_iff hden, not_le] at h
    refine ⟨?_, by rwa [sub_add_cancel]⟩
    rw [le_div_iff₀ hpos]
    calc (2 : ℚ) ^ ((Nat.log2 num : ℤ) - Nat.log2 den - 1) * den
        ≤ 2 ^ ((Nat.log2 num : ℤ) - Nat.log2 den - 1) * 2 ^ (Nat.log2 den + 1 : ℤ) := by gcongr
      _ = 2 ^ (Nat.log2 num : ℤ) := by
        rw [← zpow_add₀ two_ne_zero]
        congr 1
        ring
      _ ≤ num := hnumLow

/-- Measured in units of the mantissa, a number has no more bits than a mantissa. -/
theorem div_unit_lt {e : ℤ} (h : q < 2 ^ (e + 1)) :
    q / 2 ^ (((e + 126).toNat : ℤ) - 149) < (2 * hiddenBit : ℕ) := by
  have hexponent : e + 1 ≤ 24 + (((e + 126).toNat : ℤ) - 149) := by omega
  have hbits : ((2 * hiddenBit : ℕ) : ℚ) = 2 ^ (24 : ℤ) := by norm_num [hiddenBit]
  rw [div_lt_iff₀ (by positivity), hbits, ← zpow_add₀ two_ne_zero]
  exact h.trans_le (zpow_le_zpow_right₀ one_le_two hexponent)

/-- And it has as many, unless its power is the least. -/
theorem le_div_unit {e : ℤ} (h : 2 ^ e ≤ q) : (e + 126).toNat = 0 ∨
    (hiddenBit : ℚ) ≤ q / 2 ^ (((e + 126).toNat : ℤ) - 149) := by
  refine or_iff_not_imp_left.2 fun hne => ?_
  have hexponent : 23 + (((e + 126).toNat : ℤ) - 149) = e := by omega
  have hbits : (hiddenBit : ℚ) = 2 ^ (23 : ℤ) := by norm_num [hiddenBit]
  rwa [le_div_iff₀ (by positivity), hbits, ← zpow_add₀ two_ne_zero, hexponent]

/-- The neighbours of a quotient are found by its exponent, and the nearer of them is taken. -/
theorem exists_neighbours (hnum : 0 < num) (hden : 0 < den) : ∃ k r,
    toRat k ≤ num / den ∧ (num / den : ℚ) < toRat (k + 1) ∧
      Nearer (num / den) (toRat k) (toRat (k + 1)) k r ∧
      ofRatio num den = min r infiniteBits := by
  obtain ⟨hexpLow, hexpHigh⟩ := zpow_exponentOf hnum hden
  set e := exponentOf num den with he
  set power := (e + 126).toNat with hpower
  have hunit : (0 : ℚ) < 2 ^ ((power : ℤ) - 149) := by positivity
  have hleft : (-((power : ℤ) - 149)).toNat = 149 - power := by omega
  have hright : ((power : ℤ) - 149).toNat = power - 149 := by omega
  have hscaled := shiftLeft_div_shiftLeft num den ((power : ℤ) - 149)
  rw [hleft, hright] at hscaled
  set scaledNum := num <<< (149 - power)
  set scaledDen := den <<< (power - 149) with hscaledDen
  have hscaledPos : 0 < scaledDen := by
    rw [hscaledDen, Nat.shiftLeft_eq]
    positivity
  have hback : (scaledNum : ℚ) / scaledDen * 2 ^ ((power : ℤ) - 149) = num / den := by
    rw [hscaled, div_mul_cancel₀ _ hunit.ne']
  obtain ⟨hlow, hhigh, hnearer⟩ := nearer_roundQuotient scaledNum hscaledPos
  set mantissa := scaledNum / scaledDen
  have hbelow : mantissa < 2 * hiddenBit := by
    have hlt : (mantissa : ℚ) < (2 * hiddenBit : ℕ) :=
      hlow.trans_lt (hscaled.trans_lt (div_unit_lt hexpHigh))
    exact_mod_cast hlt
  have habove : power = 0 ∨ hiddenBit ≤ mantissa := by
    refine (le_div_unit hexpLow).imp_right fun hle => Nat.le_of_lt_succ ?_
    have hlt : (hiddenBit : ℚ) < mantissa + 1 := (hle.trans_eq hscaled.symm).trans_lt hhigh
    exact_mod_cast hlt
  have hk := toRat_add habove hbelow.le
  have hk' : toRat (power * hiddenBit + mantissa + 1) =
      (mantissa + 1) * 2 ^ ((power : ℤ) - 149) := by
    rw [Nat.add_assoc, toRat_add (habove.imp_right Nat.le_succ_of_le) hbelow]
    push_cast
    ring
  refine ⟨power * hiddenBit + mantissa, power * hiddenBit + roundQuotient scaledNum scaledDen,
    ?_, ?_, ?_, rfl⟩
  · rw [hk, ← hback]
    gcongr
  · rw [hk', ← hback]
    gcongr
  · rw [hk, hk', ← hback]
    exact hnearer.scale hunit (by simp [hiddenBit]; omega)

/-- A quotient is rounded to the nearest magnitude. -/
theorem rounds_ofRatio (hnum : 0 < num) (hden : 0 < den) :
    Rounds (num / den) (ofRatio num den) := by
  obtain ⟨k, r, hlow, hhigh, h, hofRatio⟩ := exists_neighbours hnum hden
  rw [hofRatio]
  exact h.rounds hlow hhigh

/-! ## What rounding leaves open -/

theorem Rounds.le (h : Rounds q m) : m ≤ infiniteBits := by
  rcases h with ⟨-, h⟩ | ⟨-, rfl⟩
  · exact h.1.le
  · exact le_rfl

/-- Infinity is what large numbers are rounded to, and no others. -/
theorem Rounds.eq_infiniteBits_iff (h : Rounds q m) : m = infiniteBits ↔ overflowBound ≤ q := by
  rcases h with ⟨hlt, hnearest⟩ | ⟨hle, rfl⟩
  · exact iff_of_false hnearest.1.ne hlt.not_ge
  · exact iff_of_true rfl hle

/-- Of two magnitudes that are as near, one is odd, since otherwise there is one between them. -/
theorem IsNearest.not_lt (h : IsNearest q m) (h' : IsNearest q r) : ¬m < r := by
  intro hlt
  have hm := h.2 r h'.1 hlt.ne'
  have hr := h'.2 m h.1 hlt.ne
  have heq : |q - toRat m| = |q - toRat r| := by
    rcases hm with hm | ⟨hm, -⟩
    · rcases hr with hr | ⟨hr, -⟩
      · exact absurd hr hm.not_gt
      · exact hr.symm
    · exact hm
  have hparity : m % 2 = 0 ∧ r % 2 = 0 :=
    ⟨(hm.resolve_left heq.not_lt).2, (hr.resolve_left heq.symm.not_lt).2⟩
  have hbetween : m + 1 < r := by omega
  have hleft := toRat_lt_succ m
  have hright := toRat_strictMono hbetween
  have hmiddle : toRat m + toRat r = 2 * q := by
    rcases abs_eq_abs.1 heq with h | h
    · linarith
    · linarith
  have hnear : |q - toRat (m + 1)| < |q - toRat m| := by
    rw [abs_of_nonneg (by linarith : 0 ≤ q - toRat m)]
    exact abs_lt.2 ⟨by linarith, by linarith⟩
  rcases h.2 (m + 1) (hbetween.trans h'.1) (Nat.succ_ne_self m) with hfar | ⟨hfar, -⟩
  · exact absurd hfar hnear.not_gt
  · exact hnear.ne hfar.symm

/-- There is only one magnitude that a number may be rounded to. -/
theorem Rounds.unique (h : Rounds q m) (h' : Rounds q r) : m = r := by
  rcases h with ⟨hlt, h⟩ | ⟨hle, rfl⟩
  · rcases h' with ⟨-, h'⟩ | ⟨hle, -⟩
    · exact Nat.le_antisymm (not_lt.1 (h'.not_lt h)) (not_lt.1 (h.not_lt h'))
    · exact absurd hlt hle.not_gt
  · rcases h' with ⟨hlt, -⟩ | ⟨-, rfl⟩
    · exact absurd hlt hle.not_gt
    · rfl

/-! ## Powers of ten -/

/-- Below half of the least magnitude, zero is the nearest. -/
theorem rounds_of_tiny (hzero : 0 ≤ q) (h : q < 2 ^ (-150 : ℤ)) : Rounds q 0 := by
  have hbound : q < overflowBound := h.trans (by norm_num [overflowBound])
  have hone : toRat 1 = 2 * 2 ^ (-150 : ℤ) := by
    norm_num [toRat, parts, hiddenBit]
  refine .inl ⟨hbound, by decide, fun other _ hother => .inl ?_⟩
  have hle : toRat 1 ≤ toRat other :=
    toRat_strictMono.monotone (Nat.one_le_iff_ne_zero.2 hother)
  rw [toRat_zero, sub_zero, abs_of_nonneg hzero, abs_sub_comm]
  exact lt_abs.2 (.inl (by linarith))

/-- A number has as many places as it has digits, moved by the exponent. -/
theorem zpow_places {n : ℕ} (hn : n ≠ 0) (exponent : ℤ) :
    (10 : ℚ) ^ (((Nat.toDigits 10 n).length : ℤ) + exponent - 1) ≤ n * 10 ^ exponent ∧
      (n : ℚ) * 10 ^ exponent < 10 ^ (((Nat.toDigits 10 n).length : ℤ) + exponent) := by
  have hlength : 0 < (Nat.toDigits 10 n).length := Nat.length_toDigits_pos
  generalize hplaces : (Nat.toDigits 10 n).length = places at hlength
  have hlow : 10 ^ (places - 1) ≤ n := by
    rcases Nat.lt_or_ge 1 places with h | h
    · rw [← not_lt, ← Nat.length_toDigits_le_iff (by decide) (by omega), hplaces]
      omega
    · obtain rfl : places = 1 := by omega
      exact Nat.one_le_iff_ne_zero.2 hn
  have hhigh : n < 10 ^ places := by
    rw [← Nat.length_toDigits_le_iff (by decide) hlength, hplaces]
  have hten : (0 : ℚ) < 10 ^ exponent := by positivity
  constructor
  · have hsplit : (places : ℤ) + exponent - 1 = ((places - 1 : ℕ) : ℤ) + exponent := by omega
    rw [hsplit, zpow_add₀ (by norm_num), zpow_natCast]
    exact mul_le_mul_of_nonneg_right (by exact_mod_cast hlow) hten.le
  · rw [zpow_add₀ (by norm_num), zpow_natCast]
    exact mul_lt_mul_of_pos_right (by exact_mod_cast hhigh) hten

theorem mul_pow_div_pow (n : ℕ) (exponent : ℤ) :
    ((n * Nat.pow 10 exponent.toNat : ℕ) : ℚ) / (Nat.pow 10 (-exponent).toNat : ℕ) =
      n * 10 ^ exponent := by
  obtain ⟨k, rfl | rfl⟩ := exponent.eq_nat_or_neg
  · simp
  · simp [div_eq_mul_inv]

/-- A decimal number is rounded to the nearest magnitude, also where its places alone decide. -/
theorem rounds_ofScaled (n : ℕ) (exponent : ℤ) :
    Rounds (n * 10 ^ exponent) (ofScaled n exponent) := by
  by_cases hn : n = 0
  · subst hn
    rw [Nat.cast_zero, zero_mul]
    exact rounds_of_tiny le_rfl (by positivity)
  · obtain ⟨hlow, hhigh⟩ := zpow_places hn exponent
    rw [ofScaled, if_neg hn]
    dsimp only
    split
    · refine .inr ⟨le_trans ?_ hlow, rfl⟩
      calc overflowBound ≤ (10 : ℚ) ^ (40 : ℤ) := by norm_num [overflowBound]
        _ ≤ _ := zpow_le_zpow_right₀ (by norm_num) (by omega)
    · split
      · refine rounds_of_tiny (by positivity) (hhigh.trans_le ?_)
        calc (10 : ℚ) ^ (((Nat.toDigits 10 n).length : ℤ) + exponent)
            ≤ 10 ^ (-51 : ℤ) := zpow_le_zpow_right₀ (by norm_num) (by omega)
          _ ≤ 2 ^ (-150 : ℤ) := by norm_num
      · rw [← mul_pow_div_pow]
        exact rounds_ofRatio (Nat.mul_pos (Nat.pos_of_ne_zero hn) (Nat.pow_pos (by decide)))
          (Nat.pow_pos (by decide))

/-! ## Bit patterns -/

theorem toNat_bits_ofSign {negative : Bool} (h : m < signBit) :
    (ofSign negative m).bits.toNat = if negative then m + signBit else m := by
  rw [ofSign, UInt32.toNat_ofNat']
  refine Nat.mod_eq_of_lt ?_
  simp only [signBit] at *
  split <;> omega

theorem magnitude_ofSign {negative : Bool} (h : m < signBit) :
    (ofSign negative m).magnitude = m := by
  rw [magnitude, toNat_bits_ofSign h]
  split
  · rw [Nat.add_mod_right, Nat.mod_eq_of_lt h]
  · exact Nat.mod_eq_of_lt h

theorem isNegative_ofSign {negative : Bool} (h : m < signBit) :
    (ofSign negative m).isNegative = negative := by
  rw [isNegative, toNat_bits_ofSign h]
  cases negative with
  | false => simpa using h
  | true => simp

end Binary32
end GameBox
