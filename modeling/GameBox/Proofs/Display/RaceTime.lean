import GameBox.Chunk.Data
import GameBox.Proofs.Text.Digits
import GameBox.Time.Race.Grammar

/-!
# The text of a race time tells which time it is

The places of a time are written one behind the other, and the characters between them are no
digits.  So the places are read back from the left, one at a time (`RaceTime.Clock.Spells.eq`); the
first character in which the two forms differ is the one behind the second place.  That the places
denote the time again is arithmetic (`RaceTime.total_clock`).

A word is read as a signed number before it is shown.  Its upper half becomes negative, which is no
time, and the text for this begins with a character that no place begins with.
-/

namespace GameBox
namespace RaceTime

variable {c c' : Clock} {text : List Char}

/-! ## Writing -/

theorem hours_clock_eq_zero_iff {millis : Nat} : (clock millis).hours = 0 ↔ millis < 3600000 := by
  show millis / 3600000 = 0 ↔ millis < 3600000
  omega

/-- A clock whose places are in range is written in one of the two forms. -/
theorem Clock.spells_format (c : Clock) (hminutes : c.minutes < 60) (hseconds : c.seconds < 60)
    (hmillis : c.millis < 1000) : c.Spells c.format.toList := by
  obtain ⟨hours, minutes, seconds, millis⟩ := c
  have hs := Text.isPlace_decimal 2 (by decide) (Nat.lt_trans hseconds (by decide))
  have hf := Text.isPlace_decimal 3 (by decide) hmillis
  rcases Nat.eq_zero_or_pos hours with rfl | hhours
  · have hm := Text.isNumber_decimal 1 (by decide) minutes
    simpa [Clock.format] using Spells.short hm hs hf hminutes hseconds
  · have hh := Text.isNumber_decimal 1 (by decide) hours
    have hm := Text.isPlace_decimal 2 (by decide) (Nat.lt_trans hminutes (by decide))
    simpa [Clock.format, hhours] using Spells.long hh hm hs hf hhours hminutes hseconds

theorem format_natCast (millis : Nat) : format millis = (clock millis).format := by
  rw [format, if_neg (Int.not_lt.2 (Int.natCast_nonneg millis)), Int.toNat_natCast]

theorem spells_format (millis : Nat) : (clock millis).Spells (format millis).toList := by
  rw [format_natCast]
  exact (clock millis).spells_format (minutes_clock_lt millis) (seconds_clock_lt millis)
    (millis_clock_lt millis)

/-! ## Reading -/

/-- A text shows the places of one time only. -/
theorem Clock.Spells.eq (h : c.Spells text) (h' : c'.Spells text) : c = c' := by
  generalize htext : text = text' at h'
  cases h with
  | short hm hs hf hminutes hseconds =>
    cases h' with
    | short hm' hs' hf' hminutes' hseconds' =>
      obtain ⟨rfl, -, hrest⟩ := hm.eq_of_append_cons hm'.toDenotes rfl rfl htext
      obtain ⟨rfl, -, rfl⟩ := hs.eq_of_append_cons hs'.toDenotes rfl rfl hrest
      rw [← hf.value, hf'.value]
    | long hh' hm' hs' hf' hhours' hminutes' hseconds' =>
      obtain ⟨-, -, hrest⟩ := hm.eq_of_append_cons hh'.toDenotes rfl rfl htext
      obtain ⟨-, hsame, -⟩ := hs.eq_of_append_cons hm'.toDenotes rfl rfl hrest
      exact absurd hsame (by decide)
  | long hh hm hs hf hhours hminutes hseconds =>
    cases h' with
    | short hm' hs' hf' hminutes' hseconds' =>
      obtain ⟨-, -, hrest⟩ := hh.eq_of_append_cons hm'.toDenotes rfl rfl htext
      obtain ⟨-, hsame, -⟩ := hm.eq_of_append_cons hs'.toDenotes rfl rfl hrest
      exact absurd hsame (by decide)
    | long hh' hm' hs' hf' hhours' hminutes' hseconds' =>
      obtain ⟨rfl, -, hrest⟩ := hh.eq_of_append_cons hh'.toDenotes rfl rfl htext
      obtain ⟨rfl, -, hrest⟩ := hm.eq_of_append_cons hm'.toDenotes rfl rfl hrest
      obtain ⟨rfl, -, rfl⟩ := hs.eq_of_append_cons hs'.toDenotes rfl rfl hrest
      rw [← hf.value, hf'.value]

/-- The text that stands for no time is not the text of a time. -/
theorem Clock.Spells.ne_noTime (h : c.Spells text) : text ≠ noTime.toList := by
  have hnoTime : noTime.toList = '-' :: ":--.---".toList := by decide
  rw [hnoTime]
  cases h with
  | short hm hs hf hminutes hseconds => exact hm.append_ne_cons (by decide)
  | long hh hm hs hf hhours hminutes hseconds => exact hh.append_ne_cons (by decide)

theorem total_of_spells_format {millis : Nat} (h : c.Spells (format millis).toList) :
    c.total = millis := by
  rw [h.eq (spells_format millis), total_clock]

theorem format_eq_noTime_iff {millis : Int} : format millis = noTime ↔ millis < 0 := by
  refine ⟨fun heq => ?_, fun hneg => by rw [format, if_pos hneg]⟩
  by_cases hneg : millis < 0
  · exact hneg
  · obtain ⟨n, rfl⟩ := Int.eq_ofNat_of_zero_le (Int.not_lt.1 hneg)
    exact absurd (congrArg String.toList heq) (spells_format n).ne_noTime

theorem format_eq_format_iff {millis millis' : Int} :
    format millis = format millis' ↔ millis = millis' ∨ millis < 0 ∧ millis' < 0 := by
  constructor
  · intro heq
    by_cases hneg : millis < 0
    · rw [format_eq_noTime_iff.2 hneg] at heq
      exact .inr ⟨hneg, format_eq_noTime_iff.1 heq.symm⟩
    · have hneg' : ¬millis' < 0 := by
        rwa [← format_eq_noTime_iff, ← heq, format_eq_noTime_iff]
      obtain ⟨n, rfl⟩ := Int.eq_ofNat_of_zero_le (Int.not_lt.1 hneg)
      obtain ⟨n', rfl⟩ := Int.eq_ofNat_of_zero_le (Int.not_lt.1 hneg')
      have hspells := spells_format n
      rw [heq] at hspells
      rw [← total_clock n, total_of_spells_format hspells]
      exact .inl rfl
  · rintro (rfl | ⟨hneg, hneg'⟩)
    · rfl
    · rw [format_eq_noTime_iff.2 hneg, format_eq_noTime_iff.2 hneg']

/-! ## Words -/

/-- The time of a word, which is read as a signed number. -/
theorem format_toInt32 (word : UInt32) : format word.toInt32.toInt = wordTime word := by
  have hword : word.toInt32.toInt = word.toBitVec.toInt := rfl
  have hnat : word.toBitVec.toNat = word.toNat := rfl
  have hlt := word.toNat_lt
  rw [hword, BitVec.toInt_eq_toNat_cond, hnat, wordTime]
  split
  · rw [if_pos (by omega)]
  · rw [if_neg (by omega)]
    exact format_eq_noTime_iff.2 (by omega)

theorem annotate_eq (word : UInt32) :
    annotate word = Text.decimal 1 word.toNat ++ " (" ++ wordTime word ++ ")" := by
  rw [annotate, format_toInt32]

/-! ## Records -/

/-- The labels of the results of a map. -/
def medals : List (String × (MedalTimes → UInt32)) :=
  [("Bronze", MedalTimes.bronze), ("Silver", MedalTimes.silver), ("Gold", MedalTimes.gold),
   ("BestTime", MedalTimes.author)]

theorem mem_rows_map {r : MapDescription} {times : MedalTimes} (htimes : r.times = some times)
    (hshown : r.timesAsTime = true) {label value : String} {medal : MedalTimes → UInt32}
    (hmedal : (label, medal) ∈ medals) :
    ⟨label, value⟩ ∈ r.rows ↔ value = annotate (medal times) := by
  rw [MapDescription.rows, Row.mem_list]
  simp only [medals, List.mem_cons, Prod.mk.injEq, List.not_mem_nil, or_false] at hmedal
  rcases hmedal with ⟨rfl, rfl⟩ | ⟨rfl, rfl⟩ | ⟨rfl, rfl⟩ | ⟨rfl, rfl⟩ <;>
    simp [htimes, hshown, MapDescription.showResult]

theorem mem_rows_replay {r : ReplaySummary} {time : UInt32} (htime : r.bestTime = some time)
    {value : String} : ⟨"BestTime", value⟩ ∈ r.rows ↔ value = annotate time := by
  rw [ReplaySummary.rows, Row.mem_list]
  simp [htime]

/-- **Race times.**  Every time is shown in one of the two forms, by whether it is below one hour,
and the places in its text denote it; so different times have different texts, and no time has the
text of no time.  Behind a word that is shown as a time the text of its time stands in
parentheses. -/
theorem format_reversible :
    (∀ millis : Nat, (∃ c : Clock, c.Spells (format millis).toList ∧
        (c.hours = 0 ↔ millis < 3600000)) ∧
      ∀ c : Clock, c.Spells (format millis).toList → c.total = millis) ∧
    (∀ millis millis' : Int, format millis = format millis' ↔
      millis = millis' ∨ millis < 0 ∧ millis' < 0) ∧
    (∀ (r : MapDescription) (times : MedalTimes), r.times = some times → r.timesAsTime = true →
      ∀ (label value : String) (medal : MedalTimes → UInt32), (label, medal) ∈ medals →
        (⟨label, value⟩ ∈ r.rows ↔ value = Text.decimal 1 (medal times).toNat ++ " (" ++
          wordTime (medal times) ++ ")")) ∧
    ∀ (r : ReplaySummary) (time : UInt32) (value : String), r.bestTime = some time →
      (⟨"BestTime", value⟩ ∈ r.rows ↔ value = Text.decimal 1 time.toNat ++ " (" ++
        wordTime time ++ ")") := by
  refine ⟨fun millis => ⟨⟨clock millis, spells_format millis, hours_clock_eq_zero_iff⟩,
    fun c h => total_of_spells_format h⟩, fun millis millis' => format_eq_format_iff,
    fun r times htimes hshown label value medal hmedal => ?_, fun r time value htime => ?_⟩
  · rw [← annotate_eq]
    exact mem_rows_map htimes hshown hmedal
  · rw [← annotate_eq]
    exact mem_rows_replay htime

/-- The last time below one hour, the first that has hours, and a map whose bronze medal is the one
and whose gold medal is not given. -/
theorem format_reversible_hour :
    let times : MedalTimes := ⟨3599999, 3600000, 0xFFFFFFFF, 0⟩
    let r : MapDescription := { times := some times }
    format 3599999 ≠ format 3600000 ∧
      ⟨"Bronze", "3599999 (59:59.999)"⟩ ∈ r.rows ∧
      ⟨"Silver", "3600000 (1:00:00.000)"⟩ ∈ r.rows ∧
      ⟨"Gold", "4294967295 (-:--.---)"⟩ ∈ r.rows ∧
      ⟨"BestTime", "45123 (0:45.123)"⟩ ∈ ({ bestTime := some 45123 } : ReplaySummary).rows := by
  obtain ⟨-, hdistinct, hmap, hreplay⟩ := format_reversible
  intro times r
  have hrow (label value : String) (medal : MedalTimes → UInt32) (hmedal : (label, medal) ∈ medals)
      (hvalue : value =
        Text.decimal 1 (medal times).toNat ++ " (" ++ wordTime (medal times) ++ ")") :
      ⟨label, value⟩ ∈ r.rows := (hmap r times rfl rfl label value medal hmedal).2 hvalue
  refine ⟨?_, hrow _ _ MedalTimes.bronze (by simp [medals]) (by decide),
    hrow _ _ MedalTimes.silver (by simp [medals]) (by decide),
    hrow _ _ MedalTimes.gold (by simp [medals]) (by decide),
    (hreplay _ 45123 _ rfl).2 (by decide)⟩
  rw [Ne, hdistinct]
  decide

end RaceTime
end GameBox
