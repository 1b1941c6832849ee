import GameBox.Time.Calendar.Gregorian
import Mathlib.Data.Int.Init

/-!
# Days are counted as the calendar goes

The calendar is computed by divisions, and given by a rule that goes from a day to the next one.
Both agree on every day, before and after 1970 (`Calendar.Date.isDay_iff`).

## From dates to days

A year is taken to begin in March.  Then its leap day is its last one, and the days before a year
are a sum of quotients (`Calendar.yearStart`), in which the step to the next year shows the rule for
leap years (`Calendar.yearStart_add_one`).  So a day on in the calendar is a day on in the count
(`Calendar.Date.toDays_next`).

## And back

The year of a day is found by a formula with three corrections.  Its value never falls from a day to
the next, and it is right on the first and on the last day of every year of an era
(`Calendar.yearOfEra_bounds`); so it is right on the days between.  An era has 400 years, and each
is looked at.  Inside a year the formula for the month is inverted by arithmetic alone.
-/

namespace GameBox
namespace Calendar

variable {date : Date} {days : Int}

/-! ## Years that begin in March -/

/-- The days from the start of March of year 0 to that of another year. -/
def yearStart (year : Int) : Int := 365 * year + year / 4 - year / 100 + year / 400

/-- The year has a leap day at its end if the year that begins inside it is a leap year. -/
theorem yearStart_add_one (year : Int) :
    yearStart (year + 1) = yearStart year + 365 + if IsLeap (year + 1) then 1 else 0 := by
  by_cases hleap : IsLeap (year + 1)
  · rw [if_pos hleap]
    unfold IsLeap at hleap
    unfold yearStart
    omega
  · rw [if_neg hleap]
    unfold IsLeap at hleap
    unfold yearStart
    omega

theorem yearStart_add_le (year : Int) : yearStart year + 365 ≤ yearStart (year + 1) := by
  rw [yearStart_add_one]
  split <;> omega

/-- Years go by in their order. -/
theorem yearStart_mono {year year' : Int} (h : year ≤ year') :
    yearStart year ≤ yearStart year' := by
  induction year', h using Int.leInduction with
  | base => exact Int.le_refl _
  | succ year' _ ih =>
    have hstep := yearStart_add_le year'
    omega

theorem eraDays_mul_add (year : Int) :
    year / 400 * eraDays + (daysBeforeYear (year % 400).toNat : Nat) = yearStart year := by
  unfold eraDays daysBeforeYear yearStart
  omega

/-- The day in the middle of an era that is a day of one of its years. -/
theorem daysBeforeYear_add_lt {year day : Nat} (hyear : year < 400) (hday : day ≤ 365) :
    daysBeforeYear year + day < 146097 := by
  unfold daysBeforeYear
  omega

/-- The formula for the year does not fall from a day to the next. -/
theorem yearOfEra_le_succ {day : Nat} (h : day + 1 < 146097) :
    yearOfEra day ≤ yearOfEra (day + 1) := by
  unfold yearOfEra
  omega

theorem yearOfEra_mono {day day' : Nat} (hle : day ≤ day') (h : day' < 146097) :
    yearOfEra day ≤ yearOfEra day' := by
  induction hle with
  | refl => exact Nat.le_refl _
  | step hle ih => exact Nat.le_trans (ih (Nat.lt_of_succ_lt h)) (yearOfEra_le_succ h)

/-- The last day of a year of an era. -/
def lastOfYear (year : Nat) : Nat := if IsLeap (year + 1) then 365 else 364

theorem lastOfYear_le (year : Nat) : lastOfYear year ≤ 365 := by
  unfold lastOfYear
  split <;> decide

/-- The formula for the year is right on the first and on the last day of every year. -/
theorem yearOfEra_bounds : ∀ year < 400, yearOfEra (daysBeforeYear year) = year ∧
    yearOfEra (daysBeforeYear year + lastOfYear year) = year := by
  decide +kernel

theorem yearOfEra_add {year day : Nat} (hyear : year < 400) (hday : day ≤ lastOfYear year) :
    yearOfEra (daysBeforeYear year + day) = year := by
  obtain ⟨hfirst, hlast⟩ := yearOfEra_bounds year hyear
  have hbound := daysBeforeYear_add_lt hyear (lastOfYear_le year)
  apply Nat.le_antisymm
  · calc
      yearOfEra (daysBeforeYear year + day)
        ≤ yearOfEra (daysBeforeYear year + lastOfYear year) :=
          yearOfEra_mono (Nat.add_le_add_left hday _) hbound
      _ = year := hlast
  · calc
      year = yearOfEra (daysBeforeYear year) := hfirst.symm
      _ ≤ yearOfEra (daysBeforeYear year + day) :=
          yearOfEra_mono (Nat.le_add_right _ _) (by omega)

theorem monthOfYear_add {month day : Nat}
    (h : daysBeforeMonth month + day < daysBeforeMonth (month + 1)) :
    monthOfYear (daysBeforeMonth month + day) = month := by
  unfold daysBeforeMonth at *
  unfold monthOfYear
  omega

/-! ## Months -/

/-- A month counted from zero and from March. -/
def fromMarch (month : Nat) : Nat := if 2 < month then month - 3 else month + 9

theorem monthDays_of_ne {month : Nat} (h : month ≠ 2) (year : Int) :
    monthDays year month = if month ∈ [4, 6, 9, 11] then 30 else 31 := by
  rw [monthDays, if_neg h]

theorem monthDays_pos (year : Int) (month : Nat) : 0 < monthDays year month := by
  unfold monthDays
  split
  · split <;> decide
  · split <;> decide

/-- All months but the last one, which is February, have the days up to the next one. -/
theorem daysBeforeMonth_fromMarch {month : Nat} (hpos : 0 < month) (hle : month ≤ 12)
    (hne : month ≠ 2) (year : Int) : daysBeforeMonth (fromMarch month) + monthDays year month =
      daysBeforeMonth (fromMarch month + 1) := by
  have htable : ∀ month ≤ 12, 0 < month → month ≠ 2 →
      daysBeforeMonth (fromMarch month) + (if month ∈ [4, 6, 9, 11] then 30 else 31) =
        daysBeforeMonth (fromMarch month + 1) := by
    decide
  rw [monthDays_of_ne hne]
  exact htable month hle hpos hne

theorem fromMarch_succ {month : Nat} (hne : month ≠ 2) :
    fromMarch (month + 1) = fromMarch month + 1 := by
  unfold fromMarch
  split <;> split <;> omega

namespace Date

/-- The year that begins in March and that a date falls into. -/
def marchYear (date : Date) : Int := if 2 < date.month then date.year else date.year - 1

theorem marchYear_succ {year : Int} {month day : Nat} (hne : month ≠ 2) :
    marchYear ⟨year, month + 1, 1⟩ = marchYear ⟨year, month, day⟩ := by
  unfold marchYear
  dsimp only
  split <;> split <;> omega

/-- The day of a date in the year that begins in March, counted from zero. -/
def dayOfYear (date : Date) : Nat := daysBeforeMonth (fromMarch date.month) + (date.day - 1)

theorem dayOfYear_february (year : Int) (day : Nat) :
    dayOfYear ⟨year, 2, day⟩ = 337 + (day - 1) := by
  simp [dayOfYear, fromMarch, daysBeforeMonth]

theorem toDays_eq (date : Date) :
    toDays date = yearStart date.marchYear + date.dayOfYear - epochShift := by
  show date.marchYear / 400 * eraDays + _ - epochShift = _
  rw [← eraDays_mul_add, dayOfYear]
  dsimp only [fromMarch, marchYear]
  push_cast
  omega

/-! ## The next day -/

theorem isValid_next (h : date.IsValid) : date.next.IsValid := by
  unfold next
  split
  · exact ⟨h.month_pos, h.month_le, Nat.succ_pos _, by assumption⟩
  · split
    · exact ⟨Nat.succ_pos _, by assumption, Nat.one_pos, monthDays_pos _ _⟩
    · exact ⟨Nat.one_pos, Nat.le_add_left 1 11, Nat.one_pos, monthDays_pos _ _⟩

/-- The last day of February is the last one of a year that begins in March. -/
theorem toDays_march (year : Int) :
    toDays ⟨year, 3, 1⟩ = toDays ⟨year, 2, monthDays year 2⟩ + 1 := by
  have hyear := yearStart_add_one (year - 1)
  have hdays : (monthDays year 2 : Int) = 28 + if IsLeap year then 1 else 0 := by
    rw [monthDays, if_pos rfl]
    split <;> rfl
  rw [Int.sub_add_cancel] at hyear
  have hfirst : dayOfYear ⟨year, 3, 1⟩ = 0 := by
    simp [dayOfYear, fromMarch, daysBeforeMonth]
  have hmarch : marchYear ⟨year, 3, 1⟩ = year := rfl
  have hfebruary : marchYear ⟨year, 2, monthDays year 2⟩ = year - 1 := rfl
  rw [toDays_eq, toDays_eq, hfirst, dayOfYear_february, hmarch, hfebruary]
  omega

theorem toDays_succ_month {year : Int} {month : Nat} (hpos : 0 < month) (hlt : month < 12)
    (hne : month ≠ 2) :
    toDays ⟨year, month + 1, 1⟩ = toDays ⟨year, month, monthDays year month⟩ + 1 := by
  have hmonth := daysBeforeMonth_fromMarch hpos (Nat.le_of_lt hlt) hne year
  have hdays := monthDays_pos year month
  have hyear : marchYear ⟨year, month + 1, 1⟩ = marchYear ⟨year, month, monthDays year month⟩ :=
    marchYear_succ hne
  rw [toDays_eq, toDays_eq, hyear, dayOfYear, dayOfYear]
  dsimp only
  rw [fromMarch_succ hne]
  omega

theorem toDays_january (year : Int) :
    toDays ⟨year + 1, 1, 1⟩ = toDays ⟨year, 12, monthDays year 12⟩ + 1 := by
  have hyear : marchYear ⟨year + 1, 1, 1⟩ = year := Int.add_sub_cancel year 1
  have hfirst : dayOfYear ⟨year + 1, 1, 1⟩ = 306 := by
    simp [dayOfYear, fromMarch, daysBeforeMonth]
  have hlast : dayOfYear ⟨year, 12, monthDays year 12⟩ = 305 := by
    simp [dayOfYear, fromMarch, daysBeforeMonth, monthDays]
  have hsame : marchYear ⟨year, 12, monthDays year 12⟩ = year := rfl
  rw [toDays_eq, toDays_eq, hyear, hfirst, hlast, hsame]
  omega

/-- A day on in the calendar is a day on in the count. -/
theorem toDays_next (h : date.IsValid) : toDays date.next = toDays date + 1 := by
  obtain ⟨year, month, day⟩ := date
  obtain ⟨hpos, hle, hday, hdays⟩ := h
  dsimp only at hpos hle hday hdays
  rw [next]
  dsimp only
  split
  · rw [toDays_eq, toDays_eq, dayOfYear, dayOfYear]
    dsimp only [marchYear]
    omega
  · -- The day is the last one of its month.
    obtain rfl : day = monthDays year month := Nat.le_antisymm hdays (by omega)
    split
    · by_cases hfebruary : month = 2
      · subst hfebruary
        exact toDays_march year
      · exact toDays_succ_month hpos (by omega) hfebruary
    · obtain rfl : month = 12 := by omega
      exact toDays_january year

/-! ## From days to dates -/

/-- No day of a date is behind the last one of its year, nor of its month unless this is the last
of the year. -/
theorem dayOfYear_le (h : date.IsValid) :
    date.dayOfYear ≤ (if IsLeap (date.marchYear + 1) then 365 else 364) ∧
      date.dayOfYear < daysBeforeMonth (fromMarch date.month + 1) := by
  obtain ⟨year, month, day⟩ := date
  obtain ⟨hpos, hle, hday, hdays⟩ := h
  dsimp only at hpos hle hday hdays
  by_cases hfebruary : month = 2
  · subst hfebruary
    have hyear : marchYear ⟨year, 2, day⟩ + 1 = year := Int.sub_add_cancel year 1
    rw [monthDays, if_pos rfl] at hdays
    have hend : daysBeforeMonth (fromMarch 2 + 1) = 367 := rfl
    rw [hyear, dayOfYear_february, hend]
    by_cases hleap : IsLeap year
    · rw [if_pos hleap] at hdays ⊢
      omega
    · rw [if_neg hleap] at hdays ⊢
      omega
  · have hmonth := daysBeforeMonth_fromMarch hpos hle hfebruary year
    have hlast : ∀ month ≤ 12, 0 < month → month ≠ 2 →
        daysBeforeMonth (fromMarch month + 1) ≤ 337 := by decide
    have hend := hlast month hle hpos hfebruary
    rw [dayOfYear]
    dsimp only
    split <;> omega

/-- The date of a day is found again. -/
theorem ofDays_toDays (h : date.IsValid) : ofDays (toDays date) = date := by
  obtain ⟨hlast, hmonth⟩ := dayOfYear_le h
  have hyear : (date.marchYear % 400).toNat < 400 := by omega
  have hday : date.dayOfYear ≤ lastOfYear (date.marchYear % 400).toNat := by
    have hleap : IsLeap (((date.marchYear % 400).toNat : Int) + 1) ↔
        IsLeap (date.marchYear + 1) := by
      unfold IsLeap
      omega
    rw [lastOfYear]
    simpa only [hleap] using hlast
  have hbound := daysBeforeYear_add_lt hyear (Nat.le_trans hday (lastOfYear_le _))
  have hshifted : toDays date + epochShift = date.marchYear / 400 * eraDays +
      (daysBeforeYear (date.marchYear % 400).toNat + date.dayOfYear : Nat) := by
    rw [toDays_eq, ← eraDays_mul_add]
    push_cast
    omega
  have hera : (toDays date + epochShift) / eraDays = date.marchYear / 400 := by
    unfold eraDays at hshifted ⊢
    omega
  have hofEra : ((toDays date + epochShift) % eraDays).toNat =
      daysBeforeYear (date.marchYear % 400).toNat + date.dayOfYear := by
    unfold eraDays at hshifted ⊢
    omega
  have hofYear : monthOfYear date.dayOfYear = fromMarch date.month := monthOfYear_add hmonth
  rw [ofDays, hera, hofEra, yearOfEra_add hyear hday, Nat.add_sub_cancel_left, hofYear]
  obtain ⟨year, month, day⟩ := date
  have hpos := h.month_pos
  have hle := h.month_le
  have hday := h.day_pos
  dsimp only at hpos hle hday
  simp only [marchYear, dayOfYear, fromMarch, Date.mk.injEq]
  refine ⟨?_, ?_, ?_⟩
  · split <;> split <;> omega
  · split <;> split <;> omega
  · omega

/-! ## All days -/

/-- Every date has a day before. -/
theorem exists_next_eq (h : date.IsValid) :
    ∃ before : Date, before.IsValid ∧ before.next = date := by
  obtain ⟨year, month, day⟩ := date
  obtain ⟨hpos, hle, hday, hdays⟩ := h
  dsimp only at hpos hle hday hdays
  by_cases hfirst : day = 1
  · subst hfirst
    by_cases hjanuary : month = 1
    · subst hjanuary
      have hdecember := monthDays_pos (year - 1) 12
      refine ⟨⟨year - 1, 12, monthDays (year - 1) 12⟩,
        ⟨Nat.succ_pos 11, Nat.le_refl 12, hdecember, Nat.le_refl _⟩, ?_⟩
      simp [next]
    · have hbefore := monthDays_pos year (month - 1)
      refine ⟨⟨year, month - 1, monthDays year (month - 1)⟩,
        ⟨by dsimp only; omega, by dsimp only; omega, hbefore, Nat.le_refl _⟩, ?_⟩
      simp only [next]
      rw [if_neg (Nat.lt_irrefl _), if_pos (by omega), Date.mk.injEq]
      exact ⟨rfl, by omega, rfl⟩
  · refine ⟨⟨year, month, day - 1⟩,
      ⟨hpos, hle, by dsimp only; omega, by dsimp only; omega⟩, ?_⟩
    simp only [next]
    rw [if_pos (by omega), Date.mk.injEq]
    exact ⟨rfl, rfl, by omega⟩

/-- A date with a day is in the calendar, and the day is the one that is computed. -/
theorem IsDay.toDays_eq (h : date.IsDay days) : date.IsValid ∧ toDays date = days := by
  induction h with
  | epoch => exact ⟨⟨by decide, by decide, by decide, by decide⟩, by decide⟩
  | next _ ih => exact ⟨isValid_next ih.1, by rw [toDays_next ih.1, ih.2]⟩
  | previous hdate _ ih =>
    refine ⟨hdate, ?_⟩
    rw [← ih.2, toDays_next hdate, Int.add_sub_cancel]

theorem exists_isDay (days : Int) : ∃ date : Date, date.IsDay days := by
  induction days using Int.induction_on with
  | zero => exact ⟨_, .epoch⟩
  | succ days ih =>
    obtain ⟨date, h⟩ := ih
    exact ⟨_, h.next⟩
  | pred days ih =>
    obtain ⟨date, h⟩ := ih
    obtain ⟨before, hbefore, rfl⟩ := exists_next_eq h.toDays_eq.1
    exact ⟨before, .previous hbefore h⟩

/-- **The calendar.**  Every day has one date, which is the one that is computed. -/
theorem isDay_iff : date.IsDay days ↔ ofDays days = date := by
  constructor
  · intro h
    obtain ⟨hdate, rfl⟩ := h.toDays_eq
    exact ofDays_toDays hdate
  · rintro rfl
    obtain ⟨date, h⟩ := exists_isDay days
    obtain ⟨hdate, rfl⟩ := h.toDays_eq
    rwa [ofDays_toDays hdate]

theorem isValid_ofDays (days : Int) : (ofDays days).IsValid :=
  (isDay_iff.2 rfl).toDays_eq.1

theorem toDays_ofDays (days : Int) : toDays (ofDays days) = days :=
  (isDay_iff.2 rfl).toDays_eq.2

/-! ## Years and days -/

theorem toDays_newYear (year : Int) :
    toDays ⟨year, 1, 1⟩ = yearStart (year - 1) + 306 - epochShift := by
  have hfirst : dayOfYear ⟨year, 1, 1⟩ = 306 := by
    simp [dayOfYear, fromMarch, daysBeforeMonth]
  rw [Date.toDays_eq, hfirst]
  rfl

theorem toDays_newYear_mono {year year' : Int} (h : year ≤ year') :
    toDays ⟨year, 1, 1⟩ ≤ toDays ⟨year', 1, 1⟩ := by
  have hstart := yearStart_mono (Int.sub_le_sub_right h 1)
  rw [toDays_newYear, toDays_newYear]
  omega

/-- A date lies between the first day of its year and that of the next year. -/
theorem toDays_bounds (h : date.IsValid) :
    toDays ⟨date.year, 1, 1⟩ ≤ toDays date ∧ toDays date < toDays ⟨date.year + 1, 1, 1⟩ := by
  obtain ⟨hlast, hmonth⟩ := dayOfYear_le h
  have hend : date.dayOfYear ≤ 365 := Nat.le_trans hlast (by split <;> decide)
  have hbefore := yearStart_add_le (date.year - 1)
  have hle := h.month_le
  rw [Int.sub_add_cancel] at hbefore
  rw [toDays_newYear, toDays_newYear, Date.toDays_eq, Int.add_sub_cancel, marchYear]
  by_cases hmarch : 2 < date.month
  · have hyear : daysBeforeMonth (fromMarch date.month + 1) ≤ 306 := by
      rw [fromMarch, if_pos hmarch, daysBeforeMonth]
      omega
    rw [if_pos hmarch]
    omega
  · have hyear : 306 ≤ date.dayOfYear := by
      have hpos := h.month_pos
      rw [dayOfYear, fromMarch, if_neg hmarch, daysBeforeMonth]
      omega
    rw [if_neg hmarch]
    omega

/-- A date is in a year or in a later one exactly if it is not before the first day of the year. -/
theorem toDays_newYear_le_iff {year : Int} (h : date.IsValid) :
    toDays ⟨year, 1, 1⟩ ≤ toDays date ↔ year ≤ date.year := by
  obtain ⟨hfirst, hnext⟩ := toDays_bounds h
  constructor
  · intro hle
    refine Int.not_lt.1 fun hlt => ?_
    have hmono := toDays_newYear_mono (Int.add_one_le_of_lt hlt)
    omega
  · intro hle
    exact Int.le_trans (toDays_newYear_mono hle) hfirst

end Date

end Calendar
end GameBox
