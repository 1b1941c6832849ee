import GameBox.Proofs.Text.Numeral
import GameBox.Text.Numeral.Grammar

/-!
# Taking as much as possible, piece by piece

A reader that takes digits as long as there are any finds the longest beginning of a text that
consists of digits.  A numeral has several pieces, and a reader that takes each one as long as it
can need not find the longest numeral: what one piece leaves may be too little for the next.

`Takes` is the condition under which it does.  It compares what the reader takes with every other
way to begin the text with a piece and something that may follow it.  Either nothing follows, and
the other piece is no longer, or the other piece is the same one.  Stated like this, the condition
holds of two pieces if it holds of each (`Takes.append`), and what is taken when nothing may follow
is the longest (`Takes.isLongest`).

* `takeWhile_append`, `dropWhile_append`: a run of octets of a class ends where the next one begins.
* `value_eq_placeValue`: the reader of digits computes the number that they denote.
* `Takes`: a piece that is taken as long as possible.
-/

namespace GameBox
namespace Numeral

variable {p : UInt8 → Bool} {b : UInt8} {run rest text piece other : List UInt8}

/-! ## Classes of octets -/

theorem isSpace_of_isSign (h : isSign b = true) : isSpace b = false := by
  simp only [isSign, Bool.or_eq_true, decide_eq_true_eq] at h
  rcases h with rfl | rfl <;> rfl

theorem isDigit_of_isSign (h : isSign b = true) : isDigit b = false := by
  simp only [isSign, Bool.or_eq_true, decide_eq_true_eq] at h
  rcases h with rfl | rfl <;> rfl

theorem isSpace_of_isDigit (h : isDigit b = true) : isSpace b = false := by
  simp only [isDigit, Bool.and_eq_true, decide_eq_true_eq, UInt8.le_iff_toNat_le] at h
  obtain ⟨hlow, hhigh⟩ := h
  change 48 ≤ b.toNat at hlow
  simp only [isSpace, Bool.or_eq_false_iff, decide_eq_false_iff_not]
  refine ⟨⟨⟨⟨?_, ?_⟩, ?_⟩, ?_⟩, ?_⟩
  all_goals
    rintro rfl
    revert hlow
    decide

/-! ## Runs of octets -/

theorem Avoids.nil : Avoids p [] :=
  fun _ h => nomatch h

theorem avoids_cons {b : UInt8} {bs : List UInt8} : Avoids p (b :: bs) ↔ p b = false := by
  simp [Avoids]

theorem avoids_dropWhile (p : UInt8 → Bool) (text : List UInt8) : Avoids p (text.dropWhile p) := by
  intro b hb
  have h := List.head?_dropWhile_not p text
  rw [Option.mem_def.1 hb] at h
  simpa using h

theorem takeWhile_append (hrun : ∀ b ∈ run, p b = true) (hrest : Avoids p rest) :
    (run ++ rest).takeWhile p = run := by
  rw [List.takeWhile_append_of_pos hrun]
  cases rest with
  | nil => simp
  | cons b bs => simp [avoids_cons.1 hrest]

theorem dropWhile_append (hrun : ∀ b ∈ run, p b = true) (hrest : Avoids p rest) :
    (run ++ rest).dropWhile p = rest := by
  rw [List.dropWhile_append_of_pos hrun]
  cases rest with
  | nil => rfl
  | cons b bs => simp [avoids_cons.1 hrest]

theorem isDigits_takeWhile {digit : UInt8 → Bool} (h : text.takeWhile digit ≠ []) :
    IsDigits digit (text.takeWhile digit) :=
  ⟨h, fun _ => List.mem_takeWhile_imp⟩

theorem avoids_of_takeWhile_eq_nil (h : text.takeWhile p = []) : Avoids p text := by
  have hdrop := avoids_dropWhile p text
  rwa [← List.nil_append (text.dropWhile p), ← h, List.takeWhile_append_dropWhile] at hdrop

theorem Avoids.append (h : Avoids p text) (hne : text ≠ []) (rest : List UInt8) :
    Avoids p (text ++ rest) := by
  obtain ⟨b, bs, rfl⟩ := List.exists_cons_of_ne_nil hne
  exact avoids_cons.2 (avoids_cons.1 h)

/-- A text goes on with digits or it does not. -/
theorem avoids_or_exists_digits (digit : UInt8 → Bool) (text : List UInt8) : Avoids digit text ∨
    ∃ digits rest, text = digits ++ rest ∧ IsDigits digit digits ∧ Avoids digit rest := by
  by_cases h : text.takeWhile digit = []
  · exact .inl (avoids_of_takeWhile_eq_nil h)
  · exact .inr ⟨_, _, List.takeWhile_append_dropWhile.symm, isDigits_takeWhile h,
      avoids_dropWhile digit text⟩

theorem takeWhile_of_avoids (h : Avoids p text) : text.takeWhile p = [] := by
  show ([] ++ text).takeWhile p = []
  exact takeWhile_append (by simp) h

theorem IsDigits.not_begins {digit : UInt8 → Bool} (h : IsDigits digit run)
    (hrest : Avoids digit rest) : ¬run <+: rest := by
  rintro ⟨back, rfl⟩
  obtain ⟨first, others, rfl⟩ := List.exists_cons_of_ne_nil h.ne_nil
  have hfalse := hrest first rfl
  rw [h.forall_mem first List.mem_cons_self] at hfalse
  cases hfalse

/-! ## Numbers -/

/-- A number that is read on is moved up by as many places as there are digits. -/
theorem foldl_digits (base n : Nat) (digits : List UInt8) :
    digits.foldl (fun n b => n * base + digitValue b) n =
      n * base ^ digits.length + placeValue base digits := by
  induction digits generalizing n with
  | nil => simp [placeValue]
  | cons b bs ih =>
    rw [List.foldl_cons, ih, placeValue, List.length_cons, Nat.pow_succ', Nat.add_mul,
      Nat.mul_assoc, Nat.add_assoc]

/-- Reading digits from the left adds them up by their places. -/
theorem value_eq_placeValue (base : Nat) (digits : List UInt8) :
    value base digits = placeValue base digits := by
  rw [value, foldl_digits, Nat.zero_mul, Nat.zero_add]

/-- Digits that begin a text are read up to the first octet that is none. -/
theorem leading?_eq_some_iff {base n : Nat} {digit : UInt8 → Bool} :
    leading? base digit text = some n ↔ ∃ digits rest, text = digits ++ rest ∧
      IsDigits digit digits ∧ Avoids digit rest ∧ n = placeValue base digits := by
  constructor
  · intro h
    refine ⟨text.takeWhile digit, text.dropWhile digit, List.takeWhile_append_dropWhile.symm,
      isDigits_takeWhile ?_, avoids_dropWhile _ _, ?_⟩
    · intro hnil
      rw [leading?_eq_none_iff.2 hnil] at h
      cases h
    · unfold leading? at h
      split at h
      · cases h
      · rw [← Option.some.inj h, value_eq_placeValue]
  · rintro ⟨digits, rest, rfl, hdigits, hrest, rfl⟩
    obtain ⟨first, others, rfl⟩ := List.exists_cons_of_ne_nil hdigits.ne_nil
    rw [leading?, takeWhile_append hdigits.forall_mem hrest, ← value_eq_placeValue]

/-! ## Longest beginnings -/

theorem IsLongest.eq {Allowed : List UInt8 → Prop} (h : IsLongest Allowed text piece)
    (h' : IsLongest Allowed text other) : piece = other := by
  have hlength := Nat.le_antisymm (h'.longest piece h.begins h.allowed)
    (h.longest other h'.begins h'.allowed)
  exact (List.prefix_of_prefix_length_le h.begins h'.begins hlength.le).eq_of_length hlength

/-- A text of two parts. -/
def Joined (First Second : List UInt8 → Prop) (text : List UInt8) : Prop :=
  ∃ first second, First first ∧ Second second ∧ text = first ++ second

/-- A piece that is taken off the beginning of a text as long as possible, if what may follow it is
given: every other piece with something behind it is the same one, and one with nothing behind it is
no longer. -/
structure Takes (Piece Later : List UInt8 → Prop) (text piece rest : List UInt8) : Prop where
  split : text = piece ++ rest
  allowed : Piece piece
  greedy : ∀ other later, Piece other → Later later → other ++ later <+: text →
    later = [] ∧ other.length ≤ piece.length ∨ other = piece ∧ later <+: rest

namespace Takes

variable {First Second Piece Later : List UInt8 → Prop} {middle next : List UInt8}

theorem imp {Later' : List UInt8 → Prop} (h : Takes Piece Later text piece rest)
    (hlater : ∀ later, Later' later → Later later) : Takes Piece Later' text piece rest :=
  ⟨h.split, h.allowed, fun other later hother hl => h.greedy other later hother (hlater later hl)⟩

/-- Nothing is taken if the text begins with no other piece. -/
theorem nil (hnil : Piece []) (h : ∀ other, Piece other → other <+: text → other = []) :
    Takes Piece Later text [] text := by
  refine ⟨rfl, hnil, fun other later hother _ hbegins => .inr ?_⟩
  obtain rfl := h other hother ((List.prefix_append _ _).trans hbegins)
  exact ⟨rfl, hbegins⟩

/-- What is taken as long as possible under a rule is so under every stricter one that allows it. -/
theorem restrict {Piece' : List UInt8 → Prop} (h : Takes Piece Later text piece rest)
    (hpiece : Piece' piece) (hrule : ∀ other, Piece' other → Piece other) :
    Takes Piece' Later text piece rest :=
  ⟨h.split, hpiece, fun other later hother => h.greedy other later (hrule other hother)⟩

/-- Two pieces are taken one after the other. -/
theorem append (hfirst : Takes First (Joined Second Later) text piece middle)
    (hsecond : Takes Second Later middle next rest) :
    Takes (Joined First Second) Later text (piece ++ next) rest := by
  refine ⟨?_, ⟨piece, next, hfirst.allowed, hsecond.allowed, rfl⟩, ?_⟩
  · rw [hfirst.split, hsecond.split, List.append_assoc]
  · rintro _ later ⟨first, second, hfirst', hsecond', rfl⟩ hlater hbegins
    rw [List.append_assoc] at hbegins
    rcases hfirst.greedy first (second ++ later) hfirst' ⟨second, later, hsecond', hlater, rfl⟩
      hbegins with ⟨hnil, hle⟩ | ⟨rfl, hbegins'⟩
    · obtain ⟨rfl, rfl⟩ := List.append_eq_nil_iff.1 hnil
      refine .inl ⟨rfl, ?_⟩
      rw [List.append_nil, List.length_append]
      exact Nat.le_add_right_of_le hle
    · rcases hsecond.greedy second later hsecond' hlater hbegins' with ⟨hnil, hle⟩ | ⟨rfl, hrest⟩
      · refine .inl ⟨hnil, ?_⟩
        rw [List.length_append, List.length_append]
        exact Nat.add_le_add_left hle _
      · exact .inr ⟨rfl, hrest⟩

/-- What is taken with nothing to follow is the longest. -/
theorem isLongest (h : Takes Piece (fun later => later = []) text piece rest) :
    IsLongest Piece text piece := by
  refine ⟨⟨rest, h.split.symm⟩, h.allowed, fun other hbegins hother => ?_⟩
  have hbegins' : other ++ [] <+: text := by rwa [List.append_nil]
  rcases h.greedy other [] hother rfl hbegins' with ⟨-, hle⟩ | ⟨rfl, -⟩
  · exact hle
  · exact le_rfl

end Takes

/-- Digits are taken up to the first octet that is none, and what follows may begin with any
other. -/
theorem takes_takeWhile (p : UInt8 → Bool) (text : List UInt8) :
    Takes (fun run => ∀ b ∈ run, p b = true) (Avoids p) text (text.takeWhile p)
      (text.dropWhile p) := by
  refine ⟨List.takeWhile_append_dropWhile.symm, fun _ => List.mem_takeWhile_imp, ?_⟩
  rintro other later hother hlater ⟨back, rfl⟩
  rw [List.append_assoc]
  cases later with
  | nil =>
    refine .inl ⟨rfl, ?_⟩
    rw [List.takeWhile_append_of_pos hother, List.length_append]
    exact Nat.le_add_right _ _
  | cons b bs =>
    have hback : Avoids p (b :: bs ++ back) := avoids_cons.2 (avoids_cons.1 hlater)
    rw [takeWhile_append hother hback, dropWhile_append hother hback]
    exact .inr ⟨rfl, List.prefix_append _ _⟩

end Numeral
end GameBox
