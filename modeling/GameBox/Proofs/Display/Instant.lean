import GameBox.Chunk.Data
import GameBox.Proofs.Chunk.Ladder
import GameBox.Proofs.Text.Digits
import GameBox.Proofs.Time.Calendar

/-!
# The text of an instant tells which second it is

The text of an instant is a date and a time of day, in numbers of fixed width.  Only the year has a
width of its own, and the sign before a long one is no digit, so the numbers are read back from the
left one at a time (`Calendar.Moment.Spells.eq`).  This is all that it takes, in any chronology
whose moments are the instants that they were made from (`Calendar.Chronology.IsLawful`).

The Gregorian calendar is one (`Calendar.gregorian_isLawful`).  A moment is the date of the day in
the calendar and the places of the second, and both denote the instant again
(`Calendar.isInstant_momentOf`); the instants that can be shown are whole years.  An
instant that comes from a count of ticks lies far inside of them, whatever the count is, and the
words in which it is computed never overflow (`FileTime.toSeconds_eq`).
-/

namespace GameBox
namespace Calendar

variable {m m' : Moment} {seconds seconds' : Int} {text rest rest' : List Char}

/-! ## Years -/

theorem isYear_formatYear (year : Int) : IsYear (formatYear year).toList year := by
  unfold formatYear
  split
  · rename_i h
    obtain ⟨n, rfl⟩ := Int.eq_ofNat_of_zero_le h.1
    exact .plain (Text.isPlace_decimal 4 (by decide) (by omega))
  · rename_i h
    have hnumber := Text.isNumber_decimal 4 (by decide) year.natAbs
    rw [String.toList_append]
    split
    · have hyear : year = -(year.natAbs : Int) := by omega
      have hearlier := IsYear.earlier hnumber (by omega)
      rwa [← hyear] at hearlier
    · have hyear : year = (year.natAbs : Int) := by omega
      have hlater := IsYear.later hnumber (by omega)
      rwa [← hyear] at hlater

/-- A year is read in one way only if what follows it is no digit. -/
theorem IsYear.eq_of_append_cons {c : Char} {digits digits' : List Char} {year year' : Int}
    (h : IsYear digits year) (h' : IsYear digits' year') (hc : c.isDigit = false)
    (heq : digits ++ c :: rest = digits' ++ c :: rest') : year = year' ∧ rest = rest' := by
  cases h with
  | plain h =>
    cases h' with
    | plain h' =>
      obtain ⟨rfl, -, hrest⟩ := h.eq_of_append_cons h'.toDenotes hc hc heq
      exact ⟨rfl, hrest⟩
    | later h' hn' => exact absurd heq (h.append_ne_cons rfl)
    | earlier h' hn' => exact absurd heq (h.append_ne_cons rfl)
  | later h hn =>
    cases h' with
    | plain h' => exact absurd heq.symm (h'.append_ne_cons rfl)
    | later h' hn' =>
      obtain ⟨rfl, -, hrest⟩ :=
        h.eq_of_append_cons h'.toDenotes hc hc (List.tail_eq_of_cons_eq heq)
      exact ⟨rfl, hrest⟩
    | earlier h' hn' => exact absurd (List.head_eq_of_cons_eq heq) (by decide)
  | earlier h hn =>
    cases h' with
    | plain h' => exact absurd heq.symm (h'.append_ne_cons rfl)
    | later h' hn' => exact absurd (List.head_eq_of_cons_eq heq) (by decide)
    | earlier h' hn' =>
      obtain ⟨rfl, -, hrest⟩ :=
        h.eq_of_append_cons h'.toDenotes hc hc (List.tail_eq_of_cons_eq heq)
      exact ⟨rfl, hrest⟩

/-! ## Moments -/

/-- A text shows one moment only. -/
theorem Moment.Spells.eq (h : m.Spells text) (h' : m'.Spells text) : m = m' := by
  generalize htext : text = text' at h'
  obtain ⟨hy, hmo, hd, hh, hmi, hs⟩ := h
  obtain ⟨hy', hmo', hd', hh', hmi', hs'⟩ := h'
  obtain ⟨rfl, hrest⟩ := hy.eq_of_append_cons hy' rfl htext
  obtain ⟨rfl, -, hrest⟩ := hmo.eq_of_append_cons hmo'.toDenotes rfl rfl hrest
  obtain ⟨rfl, -, hrest⟩ := hd.eq_of_append_cons hd'.toDenotes rfl rfl hrest
  obtain ⟨rfl, -, hrest⟩ := hh.eq_of_append_cons hh'.toDenotes rfl rfl hrest
  obtain ⟨rfl, -, rfl⟩ := hmi.eq_of_append_cons hmi'.toDenotes rfl rfl hrest
  rw [← hs.value, hs'.value]

/-- A moment denotes one instant only. -/
theorem Moment.IsInstant.eq (h : m.IsInstant seconds) (h' : m.IsInstant seconds') :
    seconds = seconds' := by
  obtain ⟨days, hdays, rfl⟩ := h.exists_days
  obtain ⟨days', hdays', rfl⟩ := h'.exists_days
  rw [← hdays.toDays_eq.2, hdays'.toDays_eq.2]

theorem isInstant_momentOf (seconds : Int) : (momentOf seconds).IsInstant seconds := by
  refine ⟨?_, Nat.mod_lt _ (by decide), Nat.mod_lt _ (by decide),
    ⟨seconds / daySeconds, Date.isDay_iff.2 rfl, ?_⟩⟩
  · dsimp only [momentOf, daySeconds]
    omega
  · dsimp only [momentOf, daySeconds]
    omega

theorem spells_text (seconds : Int) : (momentOf seconds).Spells (momentOf seconds).text.toList := by
  have hday : daySeconds = 86400 := rfl
  have hlt : seconds % daySeconds < daySeconds := Int.emod_lt_of_pos _ (by decide)
  have hdate := Date.isValid_ofDays (seconds / daySeconds)
  have hmonth : (ofDays (seconds / daySeconds)).month < 100 :=
    Nat.lt_of_le_of_lt hdate.month_le (by decide)
  have hdayOfMonth : (ofDays (seconds / daySeconds)).day < 100 := by
    have hle := hdate.day_le
    unfold monthDays at hle
    split at hle <;> split at hle <;> omega
  have hplace (n : Nat) (hn : n < 100) : Text.IsPlace 2 (Text.decimal 2 n).toList n :=
    Text.isPlace_decimal 2 (by decide) hn
  have hspells := Moment.Spells.intro (isYear_formatYear (ofDays (seconds / daySeconds)).year)
    (hplace _ hmonth) (hplace _ hdayOfMonth)
    (hplace ((seconds % daySeconds).toNat / 3600) (by omega))
    (hplace ((seconds % daySeconds).toNat / 60 % 60) (by omega))
    (hplace ((seconds % daySeconds).toNat % 60) (by omega))
  simpa [Moment.text, momentOf] using hspells

/-! ## The instants that can be shown -/

theorem firstSecond_le_iff :
    firstSecond ≤ seconds ↔ -262143 ≤ (ofDays (seconds / daySeconds)).year := by
  rw [← Date.toDays_newYear_le_iff (Date.isValid_ofDays _), Date.toDays_ofDays,
    Int.le_ediv_iff_mul_le (by decide), firstSecond]

theorem le_lastSecond_iff :
    seconds ≤ lastSecond ↔ (ofDays (seconds / daySeconds)).year ≤ 262142 := by
  have hnext : toDays ⟨262142, 12, 31⟩ + 1 = toDays ⟨262143, 1, 1⟩ := by decide
  have hyear : toDays ⟨262143, 1, 1⟩ ≤ toDays (ofDays (seconds / daySeconds)) ↔
      262143 ≤ (ofDays (seconds / daySeconds)).year :=
    Date.toDays_newYear_le_iff (Date.isValid_ofDays _)
  rw [Date.toDays_ofDays, Int.le_ediv_iff_mul_le (by decide)] at hyear
  rw [lastSecond, hnext]
  omega

theorem isShown_iff : IsShown seconds ↔ firstSecond ≤ seconds ∧ seconds ≤ lastSecond := by
  rw [firstSecond_le_iff, le_lastSecond_iff]
  constructor
  · rintro ⟨m, hm, hyear⟩
    obtain ⟨days, hdays, hseconds⟩ := hm.exists_days
    have hsame : seconds / daySeconds = days := by
      have hhour := hm.hour_lt
      have hminute := hm.minute_lt
      have hsecond := hm.second_lt
      unfold daySeconds
      omega
    rwa [hsame, Date.isDay_iff.1 hdays]
  · intro hyear
    exact ⟨momentOf seconds, isInstant_momentOf seconds, hyear⟩

theorem gregorian_isLawful : gregorian.IsLawful where
  isSome_iff seconds := by
    rw [isShown_iff, gregorian]
    dsimp only
    split
    · rename_i h
      simp [h]
    · rename_i h
      simp [h]
  isInstant seconds m h := by
    cases (Option.ite_none_right_eq_some.1 h).2
    exact isInstant_momentOf seconds
  spells seconds m h := by
    cases (Option.ite_none_right_eq_some.1 h).2
    exact spells_text seconds

/-! ## Any chronology -/

namespace Chronology.IsLawful

variable {chronology : Chronology} {text : String}

theorem isSome_format?_iff (h : chronology.IsLawful) (seconds : Int) :
    (chronology.format? seconds).isSome = true ↔ IsShown seconds := by
  rw [format?, Option.isSome_map]
  exact h.isSome_iff seconds

theorem exists_spells (h : chronology.IsLawful) (htext : chronology.format? seconds = some text) :
    ∃ m : Moment, m.Spells text.toList := by
  obtain ⟨m, hm, rfl⟩ := Option.map_eq_some_iff.1 htext
  exact ⟨m, h.spells seconds m hm⟩

/-- What is read from the text of an instant is the instant. -/
theorem isInstant_of_spells (h : chronology.IsLawful)
    (htext : chronology.format? seconds = some text) (hm : m.Spells text.toList) :
    m.IsInstant seconds := by
  obtain ⟨shown, hshown, rfl⟩ := Option.map_eq_some_iff.1 htext
  rw [hm.eq (h.spells seconds shown hshown)]
  exact h.isInstant seconds shown hshown

/-- Different instants have different texts. -/
theorem eq_of_format? (h : chronology.IsLawful) (htext : chronology.format? seconds = some text)
    (htext' : chronology.format? seconds' = some text) : seconds = seconds' := by
  obtain ⟨m, hm⟩ := h.exists_spells htext
  exact (h.isInstant_of_spells htext hm).eq (h.isInstant_of_spells htext' hm)

end Chronology.IsLawful

end Calendar

/-! ## Ticks -/

namespace FileTime

variable {ticks ticks' : UInt64}

/-- The words in which an instant is computed do not overflow. -/
theorem toSeconds_eq (ticks : UInt64) :
    toSeconds ticks = (ticks.toNat / 10000000 : Nat) - 11644473600 := by
  have hlt := ticks.toNat_lt
  have hquotient : (ticks / ticksPerSecond).toBitVec.toNat = ticks.toNat / 10000000 :=
    UInt64.toNat_div ticks ticksPerSecond
  have hword : (ticks / ticksPerSecond).toInt64.toInt = (ticks.toNat / 10000000 : Nat) := by
    show (ticks / ticksPerSecond).toBitVec.toInt = _
    rw [BitVec.toInt_eq_toNat_cond, hquotient, if_pos (by omega)]
  have hepoch : epochSeconds.toInt = 11644473600 := by decide
  rw [toSeconds, Int64.toInt_sub, hword, hepoch]
  exact Int.bmod_eq_of_le (by omega) (by omega)

theorem toSeconds_mono (h : ticks ≤ ticks') : toSeconds ticks ≤ toSeconds ticks' := by
  have hdiv := Nat.div_le_div_right (c := 10000000) (UInt64.le_iff_toNat_le.1 h)
  rw [toSeconds_eq, toSeconds_eq]
  omega

/-- Every count of ticks is an instant that can be shown. -/
theorem isShown_toSeconds (ticks : UInt64) : Calendar.IsShown (toSeconds ticks) := by
  have hlt := ticks.toNat_lt
  have hfirst : Calendar.firstSecond ≤ -11644473600 := by decide
  have hlast : 2000000000000 ≤ Calendar.lastSecond := by decide
  rw [Calendar.isShown_iff, toSeconds_eq]
  omega

theorem exists_format?_toSeconds (ticks : UInt64) :
    ∃ text, Calendar.format? (toSeconds ticks) = some text :=
  Option.isSome_iff_exists.1
    ((Calendar.gregorian_isLawful.isSome_format?_iff _).2 (isShown_toSeconds ticks))

end FileTime

/-! ## Chunks -/

namespace ModificationTime

theorem rows_of_format? {ticks : UInt64} {text : String}
    (h : Calendar.format? (FileTime.toSeconds ticks) = some text) :
    ({ ticks := some ticks } : ModificationTime).rows = [⟨"Time", text⟩] := by
  show Row.list [("Time", Calendar.format? (FileTime.toSeconds ticks))] = _
  rw [h]
  rfl

/-- If nothing was wrong, the ticks are there, and the chunk has a row. -/
theorem rows_decode {encoding : Encoding} {data : Octets} {idents : Identifier.Table}
    (h : (ChunkData.decode .time encoding data idents).error = none) :
    ∃ ticks text, (ChunkData.decode .time encoding data idents).chunk =
        ⟨.time, ({ ticks := some ticks } : ModificationTime)⟩ ∧
      Calendar.format? (FileTime.toSeconds ticks) = some text ∧
      (ChunkData.decode .time encoding data idents).chunk.rows = [⟨"Time", text⟩] := by
  cases hrun : ChunkKind.time.decoder.run encoding data 0 ⟨idents, ChunkKind.time.blank⟩ with
  | mk result next draft =>
  obtain ⟨left, record⟩ := draft
  have hnone : ∀ layer ∈ layout.layers, ∀ slot ∈ layer.slots, slot.Spares layout.version :=
    List.forall_mem_nil _
  obtain ⟨front, back, hslots, hfilled, hwhole⟩ :=
    Layout.filled_of_run hnone hrun
  rw [ChunkData.decode, hrun] at h ⊢
  cases result with
  | error error => cases h
  | ok value =>
    obtain ⟨filled, missing, hnone, rfl, -⟩ := hwhole rfl
    obtain ⟨rfl, rfl⟩ := List.append_eq_nil_iff.1 hnone.symm
    -- The one slot is filled.
    change Slot.FilledBy _ _ record at hfilled
    obtain _ | ⟨values, hrest⟩ := hfilled
    cases hrest
    obtain ⟨text, htext⟩ := FileTime.exists_format?_toSeconds (values 0)
    exact ⟨values 0, text, rfl, htext, rows_of_format? htext⟩

end ModificationTime

/-- **Instants.**  An instant has a text if and only if its year can be shown, and what is read from
the text is the instant; so no two instants have the same text.  Every count of ticks gives such an
instant, later counts no earlier ones, and a chunk that is read without an error has the row of its
instant. -/
theorem Calendar.format?_reversible :
    (∀ seconds : Int, ((format? seconds).isSome = true ↔ IsShown seconds) ∧
      ∀ text, format? seconds = some text → (∃ m : Moment, m.Spells text.toList) ∧
        ∀ m : Moment, m.Spells text.toList → m.IsInstant seconds) ∧
    (∀ (seconds seconds' : Int) (text : String), format? seconds = some text →
      format? seconds' = some text → seconds = seconds') ∧
    (∀ ticks : UInt64,
      FileTime.toSeconds ticks = (ticks.toNat / 10000000 : Nat) - 11644473600 ∧
      IsShown (FileTime.toSeconds ticks) ∧
      ∀ ticks' : UInt64, ticks ≤ ticks' → FileTime.toSeconds ticks ≤ FileTime.toSeconds ticks') ∧
    ∀ (encoding : Encoding) (data : Octets) (idents : Identifier.Table),
      let decoded := ChunkData.decode .time encoding data idents
      decoded.error = none → ∃ ticks text,
        decoded.chunk = ⟨.time, ({ ticks := some ticks } : ModificationTime)⟩ ∧
        format? (FileTime.toSeconds ticks) = some text ∧ decoded.chunk.rows = [⟨"Time", text⟩] := by
  have hlawful := gregorian_isLawful
  exact ⟨fun seconds => ⟨hlawful.isSome_format?_iff seconds, fun text htext =>
      ⟨hlawful.exists_spells htext, fun m hm => hlawful.isInstant_of_spells htext hm⟩⟩,
    fun seconds seconds' text htext htext' => hlawful.eq_of_format? htext htext',
    fun ticks => ⟨FileTime.toSeconds_eq ticks, FileTime.isShown_toSeconds ticks,
      fun ticks' hle => FileTime.toSeconds_mono hle⟩,
    fun encoding data idents hnone => ModificationTime.rows_decode hnone⟩

/-- A leap day of a full century, the first year that has a sign, the second behind the last one,
and the first and the last count of ticks. -/
theorem Calendar.format?_reversible_leap :
    format? 951786061 = some "2000-02-29 01:01:01" ∧
      (⟨⟨2000, 2, 29⟩, 1, 1, 1⟩ : Moment).IsInstant 951786061 ∧
      format? 253402300800 = some "+10000-01-01 00:00:00" ∧ IsShown 253402300800 ∧
      ¬IsShown (lastSecond + 1) ∧
      FileTime.toSeconds 0 ≤ FileTime.toSeconds 0xFFFFFFFFFFFFFFFF ∧
      ∃ text, format? (FileTime.toSeconds 0) = some text ∧
        (ChunkData.decode .time .binary #[0, 0, 0, 0, 0, 0, 0, 0] {}).chunk.rows =
          [⟨"Time", text⟩] := by
  obtain ⟨hinstant, -, hticks, hchunk⟩ := format?_reversible
  have hleap : format? 951786061 = some "2000-02-29 01:01:01" := by decide
  have hlate : format? 253402300800 = some "+10000-01-01 00:00:00" := by decide
  have hmoment : (⟨⟨2000, 2, 29⟩, 1, 1, 1⟩ : Moment).Spells "2000-02-29 01:01:01".toList :=
    spells_text 951786061
  obtain ⟨ticks, text, hrecord, htext, hrows⟩ :=
    hchunk .binary #[0, 0, 0, 0, 0, 0, 0, 0] {} (by decide)
  have hzero : (ChunkData.decode .time .binary #[0, 0, 0, 0, 0, 0, 0, 0] {}).chunk =
      ⟨.time, ({ ticks := some 0 } : ModificationTime)⟩ := rfl
  cases hzero.symm.trans hrecord
  refine ⟨hleap, (hinstant _).2 _ hleap |>.2 _ hmoment, hlate,
    (hinstant _).1.1 (Option.isSome_of_mem hlate), fun hshown => ?_,
    (hticks 0).2.2 _ (by decide), text, htext, hrows⟩
  have hsome := (hinstant _).1.2 hshown
  exact absurd hsome (by decide)

end GameBox
