import GameBox.Identifier.History
import GameBox.Proofs.Reading.Decoder

/-!
# What a table of identifiers keeps

A reference to a string is a number, and it means something only because the string that was once
at this number is still there.  A table is used for a whole body, though, by readers of many chunks
and in no fixed order, and each of them may fail at any octet.

## One read

A read has two parts.  The version is read unless it is known for good; what follows, beginning with
the word, is `wordDecoder`, and it can only add the name that it gives (`Table.Grows`).  The two are
put together in `run_decoder_cases`, which is all that is used of a read further on.

## Histories

`Table.IsSound` holds of every table that can be reached, and `Table.Extends` of any two tables with
no reset between them.  Each is shown for one use of a table and carried along a history by
induction.  `Table.applyAll_invariant` puts them together.
-/

namespace GameBox

/-! ## Positions -/

namespace Field

theorem le_next_take (data : Octets) (count pos : Nat) : pos ≤ (data.take count pos).next := by
  unfold Octets.take
  split
  · exact Nat.le_add_right _ _
  · exact Nat.le_refl _

theorem le_next_line (data : Octets) (pos : Nat) : pos ≤ (data.line pos).next := by
  unfold Octets.line
  dsimp only
  split
  · split <;> exact Nat.le_refl _
  · split
    · exact Nat.le_refl _
    · split
      · exact Nat.le_add_right_of_le (Nat.le_add_right _ _)
      · exact Nat.le_refl _

theorem le_next_lengthString (data : Octets) (pos : Nat) : pos ≤ (lengthString data pos).next := by
  have hword : pos ≤ (word 4 data pos).next := le_next_take data 4 pos
  unfold lengthString
  split
  · rename_i error next heq
    rw [heq] at hword
    exact hword
  · rename_i length next heq
    rw [heq] at hword
    split
    · exact hword
    · exact Nat.le_trans hword (le_next_take data length next)

/-- A read never goes back, not even if it fails. -/
theorem le_next_read (encoding : Encoding) (field : Field) (data : Octets) (pos : Nat) :
    pos ≤ (field.read encoding data pos).next := by
  cases encoding with
  | binary => cases field with
    | bool | mask | nat8 | nat16 | nat32 | nat64 | integer | real | nat128 | nat256 =>
      exact le_next_take data _ pos
    | string => exact le_next_lengthString data pos
  | text => cases field with
    | bool | mask | nat8 | nat16 | nat32 | nat64 | integer | real | string =>
      exact le_next_line data pos
    | nat128 | nat256 => exact le_next_take data _ pos

end Field

/-- A run never goes back. -/
theorem Decoder.le_next_run {σ α : Type} (encoding : Encoding) (data : Octets) (d : Decoder σ α)
    (pos : Nat) (s : σ) : pos ≤ (d.run encoding data pos s).next := by
  induction d generalizing pos s with
  | done value => exact Nat.le_refl _
  | fail error => exact Nat.le_refl _
  | field kind next ih =>
    have hread := Field.le_next_read encoding kind data pos
    rw [run]
    split
    · rename_i value middle heq
      rw [heq] at hread
      exact Nat.le_trans hread (ih value middle s)
    · rename_i error middle heq
      rw [heq] at hread
      exact hread
  | raw count next ih =>
    have htake := Field.le_next_take data count pos
    rw [run]
    split
    · rename_i piece middle heq
      rw [heq] at htake
      exact Nat.le_trans htake (ih piece middle s)
    · rename_i error middle heq
      rw [heq] at htake
      exact htake
  | rest next ih => exact Nat.le_trans (Nat.le_max_left _ _) (ih _ _ s)
  | exhausted next ih => exact ih _ pos s
  | position next ih => exact ih pos pos s
  | look next ih => exact ih s pos s
  | change update next ih => exact ih pos _

namespace Identifier

variable {encoding : Encoding} {data : Octets} {pos : Nat} {table table' : Table}

/-! ## One read -/

/-- What the word of an identifier, and what follows it, do to a table: nothing if the read fails,
and otherwise they may add the name that was read. -/
inductive Table.Grows (table : Table) : Outcome Table Identifier → Prop
  | failed (error : DecodeError) (next : Nat) : Grows table ⟨.error error, next, table⟩
  | kept (ident : Identifier) (next : Nat) : Grows table ⟨.ok ident, next, table⟩
  | learned (ident : Identifier) (next : Nat) (named : ident.name ≠ "") :
    Grows table ⟨.ok ident, next, { table with entries := table.entries.push ident.name }⟩

namespace Table.Grows

variable {outcome : Outcome Table Identifier}

theorem version (h : table.Grows outcome) : outcome.state.version = table.version := by
  cases h <;> rfl

theorem named (h : table.Grows outcome) (hnamed : "" ∉ table.entries) :
    "" ∉ outcome.state.entries := by
  cases h with
  | failed error next => exact hnamed
  | kept ident next => exact hnamed
  | learned ident next named =>
    rw [Array.mem_push, not_or]
    exact ⟨hnamed, Ne.symm named⟩

theorem entries_of_ok {ident : Identifier} (h : table.Grows outcome)
    (hresult : outcome.result = .ok ident) : outcome.state.entries = table.entries ∨
      outcome.state.entries = table.entries.push ident.name := by
  cases h with
  | failed error next => cases hresult
  | kept ident' next => exact .inl rfl
  | learned ident' next named =>
    cases hresult
    exact .inr rfl

theorem entries_of_error {error : DecodeError} (h : table.Grows outcome)
    (hresult : outcome.result = .error error) : outcome.state.entries = table.entries := by
  cases h with
  | failed error' next => rfl
  | kept ident next => cases hresult
  | learned ident next named => cases hresult

end Table.Grows

/-- Only a string that is written out is learned, and only if it is not empty. -/
theorem grows_wordDecoder (encoding : Encoding) (data : Octets) (pos : Nat) (table : Table) :
    table.Grows (wordDecoder.run encoding data pos table) := by
  show table.Grows (Decoder.run encoding data (.field .nat32 fun raw =>
    (nameOf raw).bind fun name => .done ⟨name, raw⟩) pos table)
  rw [Decoder.run]
  split
  swap
  · exact .failed _ _
  rename_i raw middle hraw
  show table.Grows (Decoder.run encoding data (.look _) middle table)
  simp only [Decoder.run_look, Decoder.bind]
  cases form table.version raw with
  | unassigned => exact .kept _ _
  | collection id => exact .kept _ _
  | earlier index => exact .kept _ _
  | inline =>
    show table.Grows (Decoder.run encoding data (.field .string fun name =>
      .change (·.learn name) (.done ⟨name, raw⟩)) middle table)
    rw [Decoder.run]
    split
    · rename_i name next hname
      show table.Grows ⟨.ok ⟨name, raw⟩, next, table.learn name⟩
      by_cases hempty : name = ""
      · rw [Table.learn, hempty]
        exact .kept _ _
      · rw [Table.learn, if_neg (by simpa using hempty)]
        exact .learned ⟨name, raw⟩ next hempty
    · exact .failed _ _

/-- A version of three or more is known for good, and nothing is read. -/
theorem run_decoder_of_settled (h : 3 ≤ table.version) (encoding : Encoding) (data : Octets)
    (pos : Nat) :
    decoder.run encoding data pos table = wordDecoder.run encoding data pos table := by
  show Decoder.run encoding data (.look fun table => Decoder.bind (if table.version < 3 then _
    else .done ()) fun _ => wordDecoder) pos table = _
  rw [Decoder.run_look, if_neg (UInt32.not_lt.mpr h), Decoder.bind]

/-- Below three, a version word stands in front.  If it cannot be read, or is below two, the table
stays as it is; otherwise it gives the version for what follows. -/
theorem run_decoder_of_unsettled (h : table.version < 3) (encoding : Encoding) (data : Octets)
    (pos : Nat) :
    (∃ error next, decoder.run encoding data pos table = ⟨.error error, next, table⟩) ∨
    ∃ version next, 2 ≤ version ∧ Field.nat32.read encoding data pos = ⟨.ok version, next⟩ ∧
      decoder.run encoding data pos table =
        wordDecoder.run encoding data next { table with version } := by
  have hrun : decoder.run encoding data pos table =
      Decoder.run encoding data (.field .nat32 fun version => Decoder.bind
        (if version < 2 then .fail (.identifierVersion version)
          else .change (fun table => { table with version }) (.done ()))
        fun _ => wordDecoder) pos table := by
    show Decoder.run encoding data (.look fun table => Decoder.bind (if table.version < 3 then _
      else .done ()) fun _ => wordDecoder) pos table = _
    rw [Decoder.run_look, if_pos h]
    rfl
  rw [hrun, Decoder.run]
  split
  · rename_i version next hread
    by_cases hold : version < 2
    · left
      rw [if_pos hold]
      exact ⟨_, _, rfl⟩
    · right
      rw [if_neg hold]
      exact ⟨version, next, UInt32.not_lt.mp hold, hread, rfl⟩
  · exact .inl ⟨_, _, rfl⟩

/-- **One read.**  Either it fails and leaves the table, or what follows the version is read into
the table with the version.  A version that is not the one of the table stands in front, as a whole
word, and the read consumes it. -/
theorem run_decoder_cases (encoding : Encoding) (data : Octets) (pos : Nat) (table : Table) :
    (∃ error next, decoder.run encoding data pos table = ⟨.error error, next, table⟩) ∨
    ∃ version, 2 ≤ version ∧
      ({ table with version } : Table).Grows (decoder.run encoding data pos table) ∧
      (version ≠ table.version → ∃ next, Field.nat32.read encoding data pos = ⟨.ok version, next⟩ ∧
        next ≤ (decoder.run encoding data pos table).next) := by
  by_cases hsettled : table.version < 3
  · rcases run_decoder_of_unsettled hsettled encoding data pos with
      hfailed | ⟨version, next, hversion, hread, hrun⟩
    · exact .inl hfailed
    · right
      refine ⟨version, hversion, ?_, fun _ => ⟨next, hread, ?_⟩⟩
      · rw [hrun]
        exact grows_wordDecoder encoding data next _
      · rw [hrun]
        exact Decoder.le_next_run encoding data wordDecoder next _
  · have hversion : 3 ≤ table.version := UInt32.not_lt.mp hsettled
    right
    refine ⟨table.version, UInt32.le_trans (by decide) hversion, ?_, fun hne => absurd rfl hne⟩
    rw [run_decoder_of_settled hversion]
    exact grows_wordDecoder encoding data pos table

/-- A read that succeeds adds the name that it gives, or nothing. -/
theorem entries_of_run_ok {ident : Identifier}
    (h : (decoder.run encoding data pos table).result = .ok ident) :
    (decoder.run encoding data pos table).state.entries = table.entries ∨
      (decoder.run encoding data pos table).state.entries = table.entries.push ident.name := by
  rcases run_decoder_cases encoding data pos table with
    ⟨error, next, hrun⟩ | ⟨version, -, hgrows, -⟩
  · rw [hrun] at h
    cases h
  · exact hgrows.entries_of_ok h

/-- A read that fails adds nothing. -/
theorem entries_of_run_error {error : DecodeError}
    (h : (decoder.run encoding data pos table).result = .error error) :
    (decoder.run encoding data pos table).state.entries = table.entries := by
  rcases run_decoder_cases encoding data pos table with
    ⟨error', next, hrun⟩ | ⟨version, -, hgrows, -⟩
  · rw [hrun]
  · exact hgrows.entries_of_error h

/-- The version changes only to that of a version word which the read consumes. -/
theorem exists_version_of_run
    (h : (decoder.run encoding data pos table).state.version ≠ table.version) :
    ∃ version next, Field.nat32.read encoding data pos = ⟨.ok version, next⟩ ∧ 2 ≤ version ∧
      next ≤ (decoder.run encoding data pos table).next ∧
      (decoder.run encoding data pos table).state.version = version := by
  rcases run_decoder_cases encoding data pos table with
    ⟨error, next, hrun⟩ | ⟨version, hversion, hgrows, hread⟩
  · rw [hrun] at h
    exact absurd rfl h
  · have hstate : (decoder.run encoding data pos table).state.version = version := hgrows.version
    rw [hstate] at h
    obtain ⟨next, hword, hle⟩ := hread h
    exact ⟨version, next, hword, hversion, hle, hstate⟩

/-- Whatever a read does, what was learned before stays in its place. -/
theorem exists_entries_run (encoding : Encoding) (data : Octets) (pos : Nat) (table : Table) :
    ∃ learned, (decoder.run encoding data pos table).state.entries = table.entries ++ learned := by
  cases hresult : (decoder.run encoding data pos table).result with
  | error error => exact ⟨#[], by rw [entries_of_run_error hresult, Array.append_empty]⟩
  | ok ident =>
    rcases entries_of_run_ok hresult with hsame | hpush
    · exact ⟨#[], by rw [hsame, Array.append_empty]⟩
    · exact ⟨#[ident.name], by rw [hpush, Array.push_eq_append]⟩

namespace Table

/-! ## What holds of every table -/

/-- No strings are learned before the version is read, which is two at least, and the empty string
is never learned. -/
structure IsSound (table : Table) : Prop where
  version : table.version = 0 ∧ table.entries = #[] ∨ 2 ≤ table.version
  named : "" ∉ table.entries

theorem isSound_empty : IsSound .empty where
  version := .inl ⟨rfl, rfl⟩
  named := by simp [Table.empty]

theorem IsSound.read (h : table.IsSound) (encoding : Encoding) (data : Octets) (pos : Nat) :
    (decoder.run encoding data pos table).state.IsSound := by
  rcases run_decoder_cases encoding data pos table with
    ⟨error, next, hrun⟩ | ⟨version, hversion, hgrows, -⟩
  · rw [hrun]
    exact h
  · have hstate : (decoder.run encoding data pos table).state.version = version := hgrows.version
    exact ⟨.inr (hstate ▸ hversion), hgrows.named h.named⟩

theorem IsSound.apply (h : table.IsSound) (operation : Operation) :
    (table.apply operation).IsSound := by
  cases operation with
  | read encoding data pos => exact h.read encoding data pos
  | get index => exact h
  | reset => exact isSound_empty

theorem IsSound.applyAll (h : table.IsSound) (history : List Operation) :
    (table.applyAll history).IsSound := by
  induction history generalizing table with
  | nil => exact h
  | cons operation history ih =>
    rw [applyAll_cons]
    exact ih (h.apply operation)

/-! ## What stays until the table is reset -/

/-- The later table has learned at least the strings of the earlier one, in the same places, and it
has the version of the earlier one if that is known for good. -/
structure Extends (later earlier : Table) : Prop where
  entries : ∃ learned, later.entries = earlier.entries ++ learned
  version : 3 ≤ earlier.version → later.version = earlier.version

theorem Extends.refl (table : Table) : table.Extends table where
  entries := ⟨#[], Array.append_empty.symm⟩
  version _ := rfl

theorem Extends.trans {table'' : Table} (h : table''.Extends table') (h' : table'.Extends table) :
    table''.Extends table := by
  obtain ⟨learned, hlearned⟩ := h'.entries
  obtain ⟨learned', hlearned'⟩ := h.entries
  refine ⟨⟨learned ++ learned', ?_⟩, fun hsettled => ?_⟩
  · rw [hlearned', hlearned, Array.append_assoc]
  · have hversion := h'.version hsettled
    rw [h.version (by rwa [hversion]), hversion]

/-- Extended tables resolve the same references. -/
theorem Extends.get? (h : table'.Extends table) {index : UInt32} {name : String}
    (hname : table.get? index = some name) : table'.get? index = some name := by
  obtain ⟨learned, hlearned⟩ := h.entries
  unfold Table.get? at hname ⊢
  by_cases hzero : index = 0
  · rw [if_pos hzero] at hname
    cases hname
  · rw [if_neg hzero] at hname ⊢
    have hlt := (Array.getElem?_eq_some_iff.1 hname).1
    rw [hlearned, Array.getElem?_append_left hlt, hname]

theorem extends_apply (table : Table) {operation : Operation} (h : operation ≠ .reset) :
    (table.apply operation).Extends table := by
  cases operation with
  | read encoding data pos =>
    refine ⟨exists_entries_run encoding data pos table, fun hsettled => ?_⟩
    rw [apply, run_decoder_of_settled hsettled]
    exact (grows_wordDecoder encoding data pos table).version
  | get index => exact .refl table
  | reset => exact absurd rfl h

theorem extends_applyAll (table : Table) {history : List Operation} (h : .reset ∉ history) :
    (table.applyAll history).Extends table := by
  induction history generalizing table with
  | nil => exact .refl table
  | cons operation history ih =>
    rw [List.mem_cons, not_or] at h
    rw [applyAll_cons]
    exact (ih (table.apply operation) h.2).trans (table.extends_apply (Ne.symm h.1))

/-- **Histories.**  Whatever is done to a new table, it is sound.  A read adds the name that it
gives or nothing, and a read that fails adds nothing and can only leave a version that it consumed
as a whole word.  Until the table is reset, strings stay in their places, and a version of three or
more stays, too, and no read looks for another one. -/
theorem applyAll_invariant (history : List Operation) :
    let table := Table.empty.applyAll history
    ((table.version = 0 ∧ table.entries = #[] ∨ 2 ≤ table.version) ∧ "" ∉ table.entries) ∧
    (∀ encoding data pos,
      let outcome := decoder.run encoding data pos table
      (∀ ident, outcome.result = .ok ident → outcome.state.entries = table.entries ∨
        outcome.state.entries = table.entries.push ident.name) ∧
      ∀ error, outcome.result = .error error → outcome.state.entries = table.entries ∧
        (outcome.state.version ≠ table.version → ∃ version next,
          Field.nat32.read encoding data pos = ⟨.ok version, next⟩ ∧ 2 ≤ version ∧
            next ≤ outcome.next ∧ outcome.state.version = version)) ∧
    ∀ later, .reset ∉ later →
      let table' := table.applyAll later
      (∀ index name, table.get? index = some name → table'.get? index = some name) ∧
      (3 ≤ table.version → table'.version = table.version ∧ ∀ encoding data pos,
        decoder.run encoding data pos table' = wordDecoder.run encoding data pos table') := by
  intro table
  have hsound : table.IsSound := isSound_empty.applyAll history
  refine ⟨⟨hsound.version, hsound.named⟩, fun encoding data pos => ⟨?_, ?_⟩, ?_⟩
  · intro ident hresult
    exact entries_of_run_ok hresult
  · intro error hresult
    exact ⟨entries_of_run_error hresult, exists_version_of_run⟩
  · intro later hlater table'
    have hextends : table'.Extends table := table.extends_applyAll hlater
    refine ⟨fun index name => hextends.get?, fun hsettled => ?_⟩
    have hversion : table'.version = table.version := hextends.version hsettled
    exact ⟨hversion, run_decoder_of_settled (by rwa [hversion])⟩

/-- A string is learned at version three; a read that is cut off, a look and a read elsewhere in the
other encoding follow. -/
theorem applyAll_invariant_learned :
    let learning := #[3, 0, 0, 0, 0, 0, 0, 64, 1, 0, 0, 0, 97]
    let table := Table.empty.applyAll [.read .binary learning 0]
    let table' := table.applyAll [.read .binary learning 12, .get 1, .read .text #[48, 13, 10] 0]
    table.get? 1 = some "a" ∧ table'.get? 1 = some "a" ∧ table'.version = 3 := by
  intro learning table table'
  have hname : table.get? 1 = some "a" := by decide
  have hversion : table.version = 3 := by decide
  obtain ⟨-, -, hlater⟩ := applyAll_invariant [.read .binary learning 0]
  obtain ⟨hget, hsettled⟩ :=
    hlater [.read .binary learning 12, .get 1, .read .text #[48, 13, 10] 0] (by decide)
  exact ⟨hname, hget 1 "a" hname, (hsettled (by decide)).1.trans hversion⟩

end Table

end Identifier
end GameBox
