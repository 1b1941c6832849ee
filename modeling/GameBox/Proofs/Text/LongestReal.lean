import GameBox.Proofs.Text.Longest

/-!
# The longest real numeral

A real numeral has four parts that may all be missing, though not all at once: a sign, digits, a
point with more digits, and an exponent.  The scanner `realEnd?` goes through a text by positions
and looks at each part once.  It never goes back, except that it returns to the beginning of an
exponent that turns out to have no digits.

That it finds the longest numeral is shown part by part.  A part is taken as long as possible
(`Takes`), and what may follow it is chosen so that no later part can begin with what it leaves out:
no fraction begins with a sign, no exponent begins with a digit or a point.  Beside this stands
where the scanner is when it has passed the part, which is the same place in front of every text
that was passed before.

* `exists_sign`, `exists_point`, `exists_fraction`, `exists_exponent`: the parts.
* `exists_realEnd?`: the scanner always comes to an end, and where.
* `Spells.realParts`: a text of a real numeral has one way to be taken apart.
* `real?_eq_some_iff`, `real?_eq_none_iff`: the real numeral that a line begins with.
-/

namespace GameBox
namespace Numeral

variable {text rest piece other later whole fraction digits decimal exponent : List UInt8}
variable {negative : Bool}

/-! ## Positions -/

@[simp] theorem from?_append (front text : List UInt8) :
    from? (front ++ text) front.length = some text := by
  simp [from?]

theorem digitsEnd?_append (front text : List UInt8) : digitsEnd? (front ++ text) front.length =
    some (front.length + (text.takeWhile isDigit).length) := by
  simp [digitsEnd?]

@[simp] theorem getElem?_append_length (front text : List UInt8) :
    (front ++ text)[front.length]? = text.head? := by
  rw [List.getElem?_append_right (Nat.le_refl _), Nat.sub_self, List.head?_eq_getElem?]

theorem head?_of_cons_begins {b : UInt8} {bs : List UInt8} (h : b :: bs <+: text) :
    text.head? = some b := by
  obtain ⟨back, rfl⟩ := h
  rfl

/-! ## Signs -/

/-- A sign or nothing, whichever it is. -/
def HasSign (text : List UInt8) : Prop := ∃ negative, IsSign text negative

theorem hasSign_iff : HasSign text ↔ text = [] ∨ ∃ b, text = [b] ∧ isSign b = true := by
  constructor
  · rintro ⟨_, _ | _ | _⟩
    · exact .inl rfl
    · exact .inr ⟨0x2B, rfl, rfl⟩
    · exact .inr ⟨0x2D, rfl, rfl⟩
  · rintro (rfl | ⟨b, rfl, hb⟩)
    · exact ⟨_, .absent⟩
    · simp only [isSign, Bool.or_eq_true, decide_eq_true_eq] at hb
      rcases hb with rfl | rfl
      · exact ⟨_, .plus⟩
      · exact ⟨_, .minus⟩

/-- What follows a sign in a numeral is not empty, and begins with no other sign. -/
structure FollowsSign (later : List UInt8) : Prop where
  ne_nil : later ≠ []
  avoids : Avoids isSign later

theorem exists_sign (text : List UInt8) : ∃ sign rest, Takes HasSign FollowsSign text sign rest ∧
    ∀ front, signEnd (front ++ text) front.length = front.length + sign.length := by
  by_cases h : ∃ b, text.head? = some b ∧ isSign b = true
  · obtain ⟨b, hhead, hb⟩ := h
    obtain ⟨bs, rfl⟩ := List.head?_eq_some_iff.1 hhead
    refine ⟨[b], bs, ⟨rfl, hasSign_iff.2 (.inr ⟨b, rfl, hb⟩), ?_⟩,
      fun front => by simp [signEnd, hb]⟩
    intro other later hother hlater hbegins
    rcases hasSign_iff.1 hother with rfl | ⟨c, rfl, -⟩
    · obtain ⟨c, cs, rfl⟩ := List.exists_cons_of_ne_nil hlater.ne_nil
      obtain ⟨rfl, -⟩ := List.cons_prefix_cons.1 hbegins
      rw [avoids_cons.1 hlater.avoids] at hb
      cases hb
    · obtain ⟨rfl, hrest⟩ := List.cons_prefix_cons.1 hbegins
      exact .inr ⟨rfl, hrest⟩
  · refine ⟨[], text, .nil (hasSign_iff.2 (.inl rfl)) fun other hother hbegins => ?_,
      fun front => ?_⟩
    · rcases hasSign_iff.1 hother with rfl | ⟨b, rfl, hb⟩
      · rfl
      · exact absurd ⟨b, head?_of_cons_begins hbegins, hb⟩ h
    · have hnone : text.head?.any isSign = false := by
        cases hhead : text.head? with
        | none => rfl
        | some b => exact Bool.eq_false_iff.2 fun hb => h ⟨b, hhead, hb⟩
      simp [signEnd, hnone]

/-! ## Fractions -/

/-- The point in front of a fraction. -/
def isPoint (b : UInt8) : Bool := b = 0x2E

/-- A point with digits behind it, or nothing. -/
def HasPoint (text : List UInt8) : Prop :=
  text = [] ∨ ∃ digits, text = 0x2E :: digits ∧ ∀ b ∈ digits, isDigit b = true

/-- A decimal fraction, whichever it is. -/
def HasFraction (text : List UInt8) : Prop := ∃ whole fraction, IsFraction text whole fraction

/-- What follows a fraction in a numeral begins neither with a digit nor with a point. -/
structure FollowsFraction (later : List UInt8) : Prop where
  digit : Avoids isDigit later
  point : Avoids isPoint later

theorem exists_point (text : List UInt8) : ∃ point rest,
    Takes HasPoint FollowsFraction text point rest ∧
      ∀ front, pointEnd? (front ++ text) front.length = some (front.length + point.length) := by
  by_cases h : text.head? = some 0x2E
  · obtain ⟨bs, rfl⟩ := List.head?_eq_some_iff.1 h
    refine ⟨0x2E :: bs.takeWhile isDigit, bs.dropWhile isDigit,
      ⟨by simp, .inr ⟨_, rfl, fun _ => List.mem_takeWhile_imp⟩, ?_⟩, fun front => ?_⟩
    · intro other later hother hlater hbegins
      rcases hother with rfl | ⟨digits, rfl, hdigits⟩
      · cases later with
        | nil => exact .inl ⟨rfl, Nat.zero_le _⟩
        | cons b bs =>
          obtain ⟨rfl, -⟩ := List.cons_prefix_cons.1 hbegins
          cases avoids_cons.1 hlater.point
      · obtain ⟨-, hbegins⟩ := List.cons_prefix_cons.1 hbegins
        rcases (takes_takeWhile isDigit bs).greedy digits later hdigits hlater.digit hbegins with
          ⟨hnil, hle⟩ | ⟨rfl, hrest⟩
        · exact .inl ⟨hnil, Nat.succ_le_succ hle⟩
        · exact .inr ⟨rfl, hrest⟩
    · have hend := digitsEnd?_append (front ++ [0x2E]) bs
      rw [List.append_assoc, List.length_append] at hend
      rw [pointEnd?, getElem?_append_length, if_pos h]
      simpa [Nat.add_assoc, Nat.add_comm 1] using hend
  · refine ⟨[], text, .nil (.inl rfl) fun other hother hbegins => ?_, fun front => ?_⟩
    · rcases hother with rfl | ⟨digits, rfl, -⟩
      · rfl
      · exact absurd (head?_of_cons_begins hbegins) h
    · rw [pointEnd?, getElem?_append_length, if_neg h]
      rfl

theorem isDigit_point : isDigit 0x2E = false := rfl

/-- Digits and a point behind them, of which there are some digits, are a fraction. -/
theorem hasFraction_iff : HasFraction text ↔ ∃ whole point, (∀ b ∈ whole, isDigit b = true) ∧
    HasPoint point ∧ (whole = [] → 1 < point.length) ∧ text = whole ++ point := by
  constructor
  · rintro ⟨whole, fraction, hwhole | ⟨hwhole, hfraction⟩ | hfraction⟩
    · exact ⟨text, [], hwhole.forall_mem, .inl rfl, fun h => absurd h hwhole.ne_nil, by simp⟩
    · exact ⟨whole, _, hwhole.forall_mem, .inr ⟨fraction, rfl, hfraction⟩,
        fun h => absurd h hwhole.ne_nil, rfl⟩
    · refine ⟨[], _, by simp, .inr ⟨fraction, rfl, hfraction.forall_mem⟩, fun _ => ?_, rfl⟩
      simpa [List.length_pos_iff] using hfraction.ne_nil
  · rintro ⟨whole, point, hwhole, rfl | ⟨digits, rfl, hdigits⟩, hsome, rfl⟩
    · rw [List.append_nil]
      exact ⟨whole, [], .whole ⟨fun h => by simpa using hsome h, hwhole⟩⟩
    · by_cases hnil : whole = []
      · subst hnil
        refine ⟨[], digits, .bare ⟨?_, hdigits⟩⟩
        simpa [List.length_pos_iff] using hsome rfl
      · exact ⟨whole, digits, .point ⟨hnil, hwhole⟩ hdigits⟩

/-- Digits and a point behind them are taken one after the other. -/
theorem exists_fraction (text : List UInt8) : ∃ point rest,
    Takes (Joined (fun run => ∀ b ∈ run, isDigit b = true) HasPoint) FollowsFraction text
      (text.takeWhile isDigit ++ point) rest ∧ HasPoint point ∧
      ∀ front, pointEnd? (front ++ text) (front.length + (text.takeWhile isDigit).length) =
        some (front.length + (text.takeWhile isDigit).length + point.length) := by
  obtain ⟨point, rest, hpoint, hend⟩ := exists_point (text.dropWhile isDigit)
  refine ⟨point, rest, ((takes_takeWhile isDigit text).imp ?_).append hpoint, hpoint.allowed,
    fun front => ?_⟩
  · rintro _ ⟨point, later, rfl | ⟨digits, rfl, -⟩, ⟨hlater, -⟩, rfl⟩
    · exact hlater
    · exact avoids_cons.2 isDigit_point
  · have hfront := hend (front ++ text.takeWhile isDigit)
    rwa [List.append_assoc, List.takeWhile_append_dropWhile, List.length_append] at hfront

/-! ## Exponents -/

/-- An exponent or nothing, whichever it is. -/
def HasExponent (text : List UInt8) : Prop := ∃ negative digits, IsExponent text negative digits

theorem hasExponent_iff : HasExponent text ↔ text = [] ∨ ∃ mark sign digits,
    text = mark :: (sign ++ digits) ∧ (mark = 0x65 ∨ mark = 0x45) ∧ HasSign sign ∧
      IsDigits isDigit digits := by
  constructor
  · rintro ⟨negative, digits, _ | ⟨hmark, hsign, hdigits⟩⟩
    · exact .inl rfl
    · exact .inr ⟨_, _, digits, rfl, hmark, ⟨negative, hsign⟩, hdigits⟩
  · rintro (rfl | ⟨mark, sign, digits, rfl, hmark, ⟨negative, hsign⟩, hdigits⟩)
    · exact ⟨_, _, .absent⟩
    · exact ⟨negative, digits, .present hmark hsign hdigits⟩

theorem HasExponent.followsFraction (h : HasExponent text) : FollowsFraction text := by
  rcases hasExponent_iff.1 h with rfl | ⟨mark, sign, digits, rfl, hmark, -, -⟩
  · exact ⟨.nil, .nil⟩
  · rcases hmark with rfl | rfl
    · exact ⟨avoids_cons.2 rfl, avoids_cons.2 rfl⟩
    · exact ⟨avoids_cons.2 rfl, avoids_cons.2 rfl⟩

theorem IsDigits.avoids_isSign (h : IsDigits isDigit digits) : Avoids isSign digits := by
  obtain ⟨first, others, rfl⟩ := List.exists_cons_of_ne_nil h.ne_nil
  refine avoids_cons.2 (Bool.eq_false_iff.2 fun hsign => ?_)
  have hdigit := h.forall_mem first List.mem_cons_self
  rw [isDigit_of_isSign hsign] at hdigit
  cases hdigit

/-- If there are digits behind the sign of an exponent, then all of it is taken. -/
theorem takes_exponent {mark : UInt8} {sign after : List UInt8} (hmark : mark = 0x65 ∨ mark = 0x45)
    (hsign : Takes HasSign FollowsSign text sign after) (hdigits : after.takeWhile isDigit ≠ []) :
    Takes HasExponent (fun later => later = []) (mark :: text)
      (mark :: (sign ++ after.takeWhile isDigit)) (after.dropWhile isDigit) := by
  have hrun : Takes (IsDigits isDigit) (fun later => later = []) after (after.takeWhile isDigit)
      (after.dropWhile isDigit) := by
    refine ((takes_takeWhile isDigit after).imp ?_).restrict (isDigits_takeWhile hdigits)
      fun _ h => h.forall_mem
    rintro _ rfl
    exact .nil
  have hboth : Takes (Joined HasSign (IsDigits isDigit)) (fun later => later = []) text
      (sign ++ after.takeWhile isDigit) (after.dropWhile isDigit) := by
    refine (hsign.imp ?_).append hrun
    rintro _ ⟨digits, _, h, rfl, rfl⟩
    rw [List.append_nil]
    exact ⟨h.ne_nil, h.avoids_isSign⟩
  refine ⟨by rw [hboth.split, List.cons_append], ?_, ?_⟩
  · exact hasExponent_iff.2
      (.inr ⟨mark, sign, _, rfl, hmark, hsign.allowed, isDigits_takeWhile hdigits⟩)
  · rintro other _ hother rfl hbegins
    refine .inl ⟨rfl, ?_⟩
    rw [List.append_nil] at hbegins
    rcases hasExponent_iff.1 hother with rfl | ⟨_, sign', digits, rfl, -, hsign', hdigits'⟩
    · exact Nat.zero_le _
    · obtain ⟨-, hbegins⟩ := List.cons_prefix_cons.1 hbegins
      exact Nat.succ_le_succ
        (hboth.isLongest.longest _ hbegins ⟨sign', digits, hsign', hdigits', rfl⟩)

/-- If there are none, then there is no exponent. -/
theorem takes_no_exponent {mark : UInt8} {sign after : List UInt8}
    (hsign : Takes HasSign FollowsSign text sign after) (hdigits : after.takeWhile isDigit = []) :
    Takes HasExponent (fun later => later = []) (mark :: text) [] (mark :: text) := by
  refine .nil (hasExponent_iff.2 (.inl rfl)) fun other hother hbegins => ?_
  rcases hasExponent_iff.1 hother with rfl | ⟨_, sign', digits, rfl, -, hsign', hdigits'⟩
  · rfl
  · obtain ⟨-, hbegins⟩ := List.cons_prefix_cons.1 hbegins
    rcases hsign.greedy sign' digits hsign' ⟨hdigits'.ne_nil, hdigits'.avoids_isSign⟩ hbegins with
      ⟨hnil, -⟩ | ⟨-, hafter⟩
    · exact absurd hnil hdigits'.ne_nil
    · exact absurd hafter (hdigits'.not_begins (avoids_of_takeWhile_eq_nil hdigits))

/-- The scanner goes back to the mark of an exponent if no digits follow it and its sign. -/
theorem exponentEnd?_append {mark : UInt8} {sign after : List UInt8}
    (hmark : mark = 0x65 ∨ mark = 0x45)
    (hend : ∀ front, signEnd (front ++ (sign ++ after)) front.length = front.length + sign.length)
    (front : List UInt8) : exponentEnd? (front ++ mark :: (sign ++ after)) front.length =
      some (if after.takeWhile isDigit = [] then front.length
        else front.length + (mark :: (sign ++ after.takeWhile isDigit)).length) := by
  have hsign : signEnd (front ++ mark :: (sign ++ after)) (front.length + 1) =
      front.length + 1 + sign.length := by
    have hmarked := hend (front ++ [mark])
    rwa [List.append_assoc, List.length_append] at hmarked
  have hdigits : digitsEnd? (front ++ mark :: (sign ++ after)) (front.length + 1 + sign.length) =
      some (front.length + (mark :: (sign ++ after.takeWhile isDigit)).length) := by
    have hsigned := digitsEnd?_append (front ++ mark :: sign) after
    rw [List.append_assoc, List.cons_append] at hsigned
    simp only [List.length_append, List.length_cons] at hsigned ⊢
    rw [Nat.add_right_comm, Nat.add_assoc front.length, hsigned]
    congr 1
    omega
  have hlt : front.length + 1 + sign.length <
      front.length + (mark :: (sign ++ after.takeWhile isDigit)).length ↔
        after.takeWhile isDigit ≠ [] := by
    rw [← List.length_pos_iff]
    simp only [List.length_append, List.length_cons]
    omega
  rw [exponentEnd?, if_pos (by simpa using hmark)]
  simp only [hsign, hdigits, Option.map_some, hlt, ne_eq, ite_not]

/-- Behind an exponent there is nothing to be taken. -/
theorem exists_exponent (text : List UInt8) : ∃ exponent rest,
    Takes HasExponent (fun later => later = []) text exponent rest ∧
      ∀ front, exponentEnd? (front ++ text) front.length =
        some (front.length + exponent.length) := by
  by_cases h : text.head? = some 0x65 ∨ text.head? = some 0x45
  · obtain ⟨mark, bs, rfl, hmark⟩ : ∃ mark bs, text = mark :: bs ∧ (mark = 0x65 ∨ mark = 0x45) := by
      rcases h with hhead | hhead
      · obtain ⟨bs, rfl⟩ := List.head?_eq_some_iff.1 hhead
        exact ⟨0x65, bs, rfl, .inl rfl⟩
      · obtain ⟨bs, rfl⟩ := List.head?_eq_some_iff.1 hhead
        exact ⟨0x45, bs, rfl, .inr rfl⟩
    obtain ⟨sign, after, hsign, hend⟩ := exists_sign bs
    obtain rfl := hsign.split
    by_cases hdigits : after.takeWhile isDigit = []
    · refine ⟨[], _, takes_no_exponent hsign hdigits, fun front => ?_⟩
      rw [exponentEnd?_append hmark hend, if_pos hdigits]
      rfl
    · refine ⟨_, _, takes_exponent hmark hsign hdigits, fun front => ?_⟩
      rw [exponentEnd?_append hmark hend, if_neg hdigits]
  · refine ⟨[], text, .nil (hasExponent_iff.2 (.inl rfl)) fun other hother hbegins => ?_,
      fun front => ?_⟩
    · rcases hasExponent_iff.1 hother with rfl | ⟨mark, sign, digits, rfl, hmark, -, -⟩
      · rfl
      · rw [head?_of_cons_begins hbegins, Option.some_inj, Option.some_inj] at h
        exact absurd hmark h
    · rw [exponentEnd?, getElem?_append_length, if_neg h]
      rfl

/-! ## Numerals -/

theorem isReal_iff : IsReal text ↔ Joined HasSign (Joined HasFraction HasExponent) text := by
  constructor
  · rintro ⟨_, hsign, hdecimal, hexponent⟩
    exact ⟨_, _, ⟨_, hsign⟩, ⟨_, _, ⟨_, _, hdecimal⟩, ⟨_, _, hexponent⟩, rfl⟩, rfl⟩
  · rintro ⟨_, _, ⟨_, hsign⟩, ⟨_, _, ⟨_, _, hdecimal⟩, ⟨_, _, hexponent⟩, rfl⟩, rfl⟩
    exact ⟨_, .intro hsign hdecimal hexponent⟩

/-- A fraction has octets, and it begins with no sign. -/
theorem HasFraction.followsSign_append (h : HasFraction decimal) (rest : List UInt8) :
    FollowsSign (decimal ++ rest) := by
  obtain ⟨whole, point, hwhole, hpoint, hsome, rfl⟩ := hasFraction_iff.1 h
  by_cases hnil : whole = []
  · subst hnil
    rcases hpoint with rfl | ⟨digits, rfl, -⟩
    · exact absurd (hsome rfl) (Nat.not_lt_zero 1)
    · exact ⟨List.cons_ne_nil _ _, avoids_cons.2 rfl⟩
  · rw [List.append_assoc]
    exact ⟨List.append_ne_nil_of_left_ne_nil hnil _,
      (IsDigits.avoids_isSign ⟨hnil, hwhole⟩).append hnil _⟩

/-- Where no digit and at most a point is taken, no fraction begins. -/
theorem not_hasFraction_append {point : List UInt8} (hdigits : text.takeWhile isDigit = [])
    (hpoint : point.length ≤ 1)
    (h : Takes (Joined (fun run => ∀ b ∈ run, isDigit b = true) HasPoint) FollowsFraction text
      point rest)
    (hexponent : HasExponent exponent) (hbegins : decimal ++ exponent <+: text) :
    ¬HasFraction decimal := by
  intro hdecimal
  obtain ⟨whole, point', hwhole, hpoint', hsome, rfl⟩ := hasFraction_iff.1 hdecimal
  have hle : (whole ++ point').length ≤ 1 := by
    rcases h.greedy _ exponent ⟨whole, point', hwhole, hpoint', rfl⟩ hexponent.followsFraction
      hbegins with ⟨-, hle⟩ | ⟨heq, -⟩
    · exact hle.trans hpoint
    · rwa [heq]
  have hne : whole ≠ [] := by
    rintro rfl
    exact absurd hle (Nat.not_le_of_lt (hsome rfl))
  rw [List.append_assoc] at hbegins
  exact IsDigits.not_begins ⟨hne, hwhole⟩ (avoids_of_takeWhile_eq_nil hdigits)
    ((List.prefix_append _ _).trans hbegins)

/-- The longest of each part together are the longest numeral. -/
theorem isLongest_real {sign after behind : List UInt8}
    (hsign : Takes HasSign FollowsSign text sign after)
    (hfraction : Takes HasFraction FollowsFraction after decimal behind)
    (hexponent : Takes HasExponent (fun later => later = []) behind exponent rest) :
    IsLongest IsReal text (sign ++ (decimal ++ exponent)) := by
  have htail : Takes (Joined HasFraction HasExponent) (fun later => later = []) after
      (decimal ++ exponent) rest := by
    refine (hfraction.imp ?_).append hexponent
    rintro _ ⟨exponent', _, hexponent', rfl, rfl⟩
    rw [List.append_nil]
    exact hexponent'.followsFraction
  have hall : Takes (Joined HasSign (Joined HasFraction HasExponent)) (fun later => later = [])
      text (sign ++ (decimal ++ exponent)) rest := by
    refine (hsign.imp ?_).append htail
    rintro _ ⟨_, _, ⟨decimal', exponent', hdecimal', -, rfl⟩, rfl, rfl⟩
    rw [List.append_nil]
    exact hdecimal'.followsSign_append exponent'
  exact (hall.restrict (isReal_iff.2 hall.allowed) fun _ => isReal_iff.1).isLongest

/-- Where the scanner stops, if it is known where it is behind each part. -/
theorem realEnd?_append {sign after point : List UInt8}
    (hsign : signEnd (sign ++ after) 0 = sign.length)
    (hpoint : ∀ front,
      pointEnd? (front ++ after) (front.length + (after.takeWhile isDigit).length) =
        some (front.length + (after.takeWhile isDigit).length + point.length))
    (hafter : after = after.takeWhile isDigit ++ point ++ rest)
    (hexponent : ∀ front, exponentEnd? (front ++ rest) front.length =
      some (front.length + exponent.length)) :
    realEnd? (sign ++ after) =
      if after.takeWhile isDigit = [] ∧ point.length ≤ 1 then some none
      else some (some (sign ++ (after.takeWhile isDigit ++ point ++ exponent)).length) := by
  have hstop := hexponent (sign ++ (after.takeWhile isDigit ++ point))
  rw [List.append_assoc, ← hafter] at hstop
  simp only [List.length_append, ← Nat.add_assoc] at hstop ⊢
  have hnone : sign.length + (after.takeWhile isDigit).length = sign.length ∧
      sign.length + (after.takeWhile isDigit).length + point.length ≤
        sign.length + (after.takeWhile isDigit).length + 1 ↔
      after.takeWhile isDigit = [] ∧ point.length ≤ 1 := by
    rw [← List.length_eq_zero_iff]
    omega
  simp only [realEnd?, hsign, digitsEnd?_append, Option.bind_some, hpoint, hstop, Option.map_some,
    hnone]

/-- **The scanner comes to an end.**  It never asks for a position that is past the end of the text,
and the place that it finds is the end of the longest real numeral. -/
theorem exists_realEnd? (text : List UInt8) : ∃ found, realEnd? text = some found ∧
    ((found = none ∧ ∀ piece, piece <+: text → ¬IsReal piece) ∨
      ∃ piece, found = some piece.length ∧ IsLongest IsReal text piece) := by
  obtain ⟨sign, after, hsign, hstart⟩ := exists_sign text
  obtain ⟨point, behind, hfraction, hpoint, hmark⟩ := exists_fraction after
  obtain ⟨exponent, rest, hexponent, hstop⟩ := exists_exponent behind
  obtain rfl := hsign.split
  have hend := realEnd?_append (by simpa using hstart []) hmark hfraction.split hstop
  by_cases h : after.takeWhile isDigit = [] ∧ point.length ≤ 1
  · rw [if_pos h] at hend
    refine ⟨none, hend, .inl ⟨rfl, fun piece hbegins hreal => ?_⟩⟩
    obtain ⟨sign', _, hsign', ⟨decimal, exponent', hdecimal, hexponent', rfl⟩, rfl⟩ :=
      isReal_iff.1 hreal
    have hnonempty := hdecimal.followsSign_append exponent'
    rcases hsign.greedy sign' _ hsign' hnonempty hbegins with ⟨hempty, -⟩ | ⟨rfl, hafter⟩
    · exact absurd hempty hnonempty.ne_nil
    · rw [h.1, List.nil_append] at hfraction
      exact not_hasFraction_append h.1 h.2 hfraction hexponent' hafter hdecimal
  · rw [if_neg h] at hend
    have hdecimal : HasFraction (after.takeWhile isDigit ++ point) := by
      refine hasFraction_iff.2 ⟨_, point, fun _ => List.mem_takeWhile_imp, hpoint, ?_, rfl⟩
      intro hnil
      exact Nat.lt_of_not_le fun hle => h ⟨hnil, hle⟩
    refine ⟨_, hend, .inr ⟨_, rfl, isLongest_real hsign (hfraction.restrict hdecimal ?_) hexponent⟩⟩
    intro other hother
    obtain ⟨whole, point, hwhole, hpoint, -, rfl⟩ := hasFraction_iff.1 hother
    exact ⟨whole, point, hwhole, hpoint, rfl⟩

/-! ## Taking a numeral apart -/

theorem takeSign_append {sign : List UInt8} (hsign : IsSign sign negative)
    (hrest : Avoids isSign rest) : takeSign (sign ++ rest) = (negative, rest) := by
  cases hsign with
  | absent =>
    cases rest with
    | nil => rfl
    | cons b bs => simp [takeSign, avoids_cons.1 hrest]
  | plus => rfl
  | minus => rfl

theorem takePoint_of_avoids (h : Avoids isPoint text) : takePoint text = ([], text) := by
  unfold takePoint
  split
  · cases avoids_cons.1 h
  · rfl

theorem IsFraction.takes_apart (h : IsFraction decimal whole fraction)
    (hrest : FollowsFraction rest) :
    (decimal ++ rest).takeWhile isDigit = whole ∧
      takePoint ((decimal ++ rest).dropWhile isDigit) = (fraction, rest) := by
  obtain ⟨hdigit, hpoint⟩ := hrest
  cases h with
  | whole hwhole =>
    rw [takeWhile_append hwhole.forall_mem hdigit, dropWhile_append hwhole.forall_mem hdigit]
    exact ⟨rfl, takePoint_of_avoids hpoint⟩
  | point hwhole hfraction =>
    have hmark : Avoids isDigit (0x2E :: fraction ++ rest) := avoids_cons.2 isDigit_point
    rw [List.append_assoc, takeWhile_append hwhole.forall_mem hmark,
      dropWhile_append hwhole.forall_mem hmark, List.cons_append, takePoint,
      takeWhile_append hfraction hdigit, dropWhile_append hfraction hdigit]
    exact ⟨rfl, rfl⟩
  | bare hfraction =>
    refine ⟨rfl, ?_⟩
    show takePoint (0x2E :: (fraction ++ rest)) = (fraction, rest)
    rw [takePoint, takeWhile_append hfraction.forall_mem hdigit,
      dropWhile_append hfraction.forall_mem hdigit]

theorem takeExponent_of_isExponent (h : IsExponent text negative digits) :
    takeExponent text = (negative, digits) := by
  cases h with
  | absent => rfl
  | @present mark sign _ _ hmark hsign hdigits =>
    rw [takeExponent, takeSign_append hsign hdigits.avoids_isSign, if_pos (by simpa using hmark)]
    simp only [List.takeWhile_eq_self_iff.2 hdigits.forall_mem]

end Numeral

open Numeral in

/-- A real numeral is written as a text in one way only, and this is how it is taken apart. -/
theorem RealNumeral.Spells.realParts {x : RealNumeral} {text : List UInt8} (h : x.Spells text) :
    realParts text = x := by
  obtain ⟨hsign, hdecimal, hexponent⟩ := h
  obtain ⟨hwhole, hpoint⟩ := hdecimal.takes_apart (HasExponent.followsFraction ⟨_, _, hexponent⟩)
  rw [Numeral.realParts,
    takeSign_append hsign (HasFraction.followsSign_append ⟨_, _, hdecimal⟩ _).avoids]
  simp only [hwhole, hpoint, takeExponent_of_isExponent hexponent]

namespace Numeral

variable {line : List UInt8} {x : RealNumeral}

/-! ## Lines -/

/-- A line is read as the longest real numeral that it begins with. -/
theorem real?_eq_some_iff : real? line = some x ↔
    ∃ piece, IsLongest IsReal (skipSpace line) piece ∧ x.Spells piece := by
  obtain ⟨found, hend, ⟨rfl, hnone⟩ | ⟨piece, rfl, hlongest⟩⟩ := exists_realEnd? (skipSpace line)
  · simp only [real?, hend, Option.join_some, Option.map_none, reduceCtorEq, false_iff]
    rintro ⟨piece, hlongest, -⟩
    exact hnone piece hlongest.begins hlongest.allowed
  · obtain ⟨y, hy⟩ := hlongest.allowed
    have hread : real? line = some y := by
      simp only [real?, hend, Option.join_some, Option.map_some]
      rw [← List.prefix_iff_eq_take.1 hlongest.begins, hy.realParts]
    rw [hread, Option.some.injEq]
    constructor
    · rintro rfl
      exact ⟨piece, hlongest, hy⟩
    · rintro ⟨other, hother, hx⟩
      obtain rfl := hlongest.eq hother
      rw [← hy.realParts, ← hx.realParts]

/-- And it is refused if it begins with none. -/
theorem real?_eq_none_iff :
    real? line = none ↔ ∀ piece, piece <+: skipSpace line → ¬IsReal piece := by
  constructor
  · intro hnone piece hbegins hreal
    obtain ⟨_, -, ⟨rfl, h⟩ | ⟨longest, -, hlongest⟩⟩ := exists_realEnd? (skipSpace line)
    · exact h piece hbegins hreal
    · obtain ⟨x, hx⟩ := hlongest.allowed
      rw [real?_eq_some_iff.2 ⟨longest, hlongest, hx⟩] at hnone
      cases hnone
  · intro h
    rw [Option.eq_none_iff_forall_ne_some]
    intro x hx
    obtain ⟨piece, hlongest, -⟩ := real?_eq_some_iff.1 hx
    exact h piece hlongest.begins hlongest.allowed

end Numeral
end GameBox
