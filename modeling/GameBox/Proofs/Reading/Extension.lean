import GameBox.Proofs.Reading.Decoder

/-!
# What more octets change

A file may be cut off anywhere, and a chunk may be shorter than its fields.  So the same reads run
on a buffer and on a longer one that begins with it, and this module compares the two runs.

## Single reads

A read has two ways to notice the end of a buffer: an octet that it wants is missing, or it asks for
an octet behind a carriage return.  Both are reported as truncation.  Every other outcome, the
successful one included, is decided by octets that are there.  `Reader.IsStable` says this of a
read, and `Field.isStable_read` shows it for every field of either encoding.

## Decoders

A decoder can also ask whether any octet is left, and take all that are left.  What a longer buffer
does to it depends on what it does with the answers.  `Decoder.Accrues` is the condition under which
nothing is lost: the decoder asks for the end only in order to stop there, and every change takes
the state up in a given order.  Then `Accrues.run_append` compares the two runs.  They are the same,
or the first one was cut off by the end of its buffer, and the state that it left lies below the
state of the second one.

A decoder that does not ask for the end at all is simpler: by `IsLocal.run_append` the two runs are
the same, or the first one was truncated.
-/

namespace GameBox

/-! ## Truncation -/

/-- The read failed because the buffer ended too early. -/
def Found.IsTruncated {α : Type} (found : Found ReadError α) : Prop :=
  ∃ error, found.result = .error error ∧ error.kind = .truncated

/-- The buffer ended too early. -/
def IsTruncated {α : Type} (result : Except DecodeError α) : Prop :=
  ∃ error, result = .error error ∧ error.kind = .truncated

theorem Found.IsTruncated.check {α β : Type} {found : Found ReadError α} (h : found.IsTruncated)
    (f : α → Except ReadError β) : (found.check f).IsTruncated := by
  obtain ⟨error, hresult, hkind⟩ := h
  refine ⟨error, ?_, hkind⟩
  rw [Found.check, hresult]
  rfl

theorem Found.IsTruncated.map {α β : Type} {found : Found ReadError α} (h : found.IsTruncated)
    (f : α → β) : (found.map f).IsTruncated := by
  rw [Found.map_eq_check]
  exact h.check _

/-! ## The two pieces -/

namespace Octets

variable {data more : Octets} {pos length : Nat}

/-- What is cut out of a buffer is cut out of a longer one. -/
theorem extract_append_of_le {start stop : Nat} (h : stop ≤ data.size) :
    (data ++ more).extract start stop = data.extract start stop := by
  rw [Array.extract_append, Nat.sub_eq_zero_of_le h, Array.extract_zero, Array.append_empty]

theorem slice?_append {start count : Nat} (h : start + count ≤ data.size) :
    (data ++ more).slice? start count = data.slice? start count := by
  have hle : start + count ≤ (data ++ more).size := by
    rw [Array.size_append]
    omega
  rw [slice?, slice?, if_pos h, if_pos hle, extract_append_of_le h]

theorem take_append (data more : Octets) (count pos : Nat) :
    (data ++ more).take count pos = data.take count pos ∨ (data.take count pos).IsTruncated := by
  by_cases h : pos + count ≤ data.size
  · left
    rw [take, take, slice?_append h, slice?, if_pos h]
  · right
    refine ⟨.truncated count (data.left pos), ?_, rfl⟩
    rw [take, slice?, if_neg h]

/-- What is left of a longer buffer begins with what is left of the buffer. -/
theorem exists_after_append (data more : Octets) (pos : Nat) :
    ∃ piece, (data ++ more).after pos = data.after pos ++ piece := by
  refine ⟨more.toList.drop (pos - data.toList.length), ?_⟩
  rw [after_eq_drop, after_eq_drop, Array.toList_append, List.drop_append]

/-- A carriage return that is found is found in a longer buffer, too. -/
theorem findReturn?_append_of_some {window : Nat} (h : data.findReturn? window pos = some length) :
    (data ++ more).findReturn? window pos = some length := by
  obtain ⟨line, back, hafter, hlength, hreturn, hlt⟩ := findReturn?_eq_some_iff.1 h
  obtain ⟨piece, hpiece⟩ := exists_after_append data more pos
  rw [hafter, List.append_assoc, List.cons_append] at hpiece
  exact findReturn?_eq_some_iff.2 ⟨line, back ++ piece, hpiece, hlength, hreturn, hlt⟩

/-- If the buffer fills the window and there is no carriage return in it, more octets bring none. -/
theorem findReturn?_append_of_none {window : Nat} (h : data.findReturn? window pos = none)
    (hwindow : window ≤ data.left pos) : (data ++ more).findReturn? window pos = none := by
  obtain ⟨piece, hpiece⟩ := exists_after_append data more pos
  rw [← length_after] at hwindow
  rw [findReturn?_eq_none_iff, hpiece, List.take_append_of_le_length hwindow]
  exact findReturn?_eq_none_iff.1 h

theorem line_append (data more : Octets) (pos : Nat) :
    (data ++ more).line pos = data.line pos ∨ (data.line pos).IsTruncated := by
  cases hfind : data.findReturn? lineLimit pos with
  | none =>
    by_cases hleft : lineLimit ≤ data.left pos
    · left
      have hmore : lineLimit ≤ (data ++ more).left pos := by
        rw [left] at hleft ⊢
        rw [Array.size_append]
        omega
      simp only [line, hfind, findReturn?_append_of_none hfind hleft, hleft, hmore, ↓reduceIte]
    · right
      refine ⟨.truncated (data.left pos + 2) (data.left pos), ?_, rfl⟩
      simp only [line, hfind, hleft, ↓reduceIte]
  | some length =>
    cases hfeed : data[pos + length + 1]? with
    | none =>
      right
      refine ⟨.truncated (length + 2) (data.left pos), ?_, rfl⟩
      simp only [line, hfind, hfeed]
    | some b =>
      left
      have hlt : pos + length + 1 < data.size := (Array.getElem?_eq_some_iff.1 hfeed).1
      have hfeed' : (data ++ more)[pos + length + 1]? = some b := by
        rw [Array.getElem?_append_left hlt, hfeed]
      have hpiece : (data ++ more).extract pos (pos + length) =
          data.extract pos (pos + length) :=
        extract_append_of_le (by omega)
      simp only [line, hfind, findReturn?_append_of_some hfind, hfeed, hfeed', hpiece]

end Octets

/-! ## Single reads -/

namespace Reader

variable {α β : Type} {read : Reader α}

/-- More octets behind the buffer change nothing unless the read was truncated. -/
def IsStable (read : Reader α) : Prop :=
  ∀ (data more : Octets) (pos : Nat), read (data ++ more) pos = read data pos ∨
    (read data pos).IsTruncated

theorem IsStable.check (h : IsStable read) (f : α → Except ReadError β) :
    IsStable fun data pos => (read data pos).check f := by
  intro data more pos
  rcases h data more pos with hsame | htruncated
  · left
    dsimp only
    rw [hsame]
  · right
    exact htruncated.check f

theorem IsStable.map (h : IsStable read) (f : α → β) :
    IsStable fun data pos => (read data pos).map f := by
  simp only [Found.map_eq_check]
  exact h.check _

theorem isStable_take (count : Nat) : IsStable fun data pos => data.take count pos :=
  fun data more pos => Octets.take_append data more count pos

theorem isStable_line : IsStable fun data pos => data.line pos :=
  fun data more pos => Octets.line_append data more pos

end Reader

namespace Field

open Reader

theorem isStable_word (width : Nat) : IsStable (word width) :=
  (isStable_take width).map littleEndian

theorem isStable_numeral {α : Type} (expected : Field) (scan? : List UInt8 → Option α) :
    IsStable (numeral expected scan?) :=
  isStable_line.check _

/-- The length may be truncated, and so may the octets behind it. -/
theorem isStable_lengthString : IsStable lengthString := by
  intro data more pos
  rcases isStable_word 4 data more pos with hsame | ⟨error, hresult, hkind⟩
  · cases hword : word 4 data pos with
    | mk result next =>
    rw [hword] at hsame
    cases result with
    | error error =>
      left
      simp only [lengthString, hword, hsame]
    | ok length =>
      by_cases hlimit : stringLimit ≤ length
      · left
        simp only [lengthString, hword, hsame, hlimit, ↓reduceIte]
      · simp only [lengthString, hword, hsame, hlimit, ↓reduceIte]
        exact (isStable_take length).map Utf8.decode data more next
  · right
    refine ⟨error, ?_, hkind⟩
    cases hword : word 4 data pos with
    | mk result next =>
    rw [hword] at hresult
    obtain rfl : result = .error error := hresult
    simp only [lengthString, hword]

/-- Every field is stable in either encoding. -/
theorem isStable_read (encoding : Encoding) (field : Field) : IsStable (field.read encoding) := by
  cases encoding with
  | binary => cases field with
    | bool | mask | nat8 | nat16 | nat32 | nat64 | integer | real | nat128 | nat256 =>
      exact (isStable_word _).map _
    | string => exact isStable_lengthString
  | text => cases field with
    | bool | string => exact isStable_line.map _
    | mask | nat8 | nat16 | nat32 | nat64 | integer | real =>
      exact (isStable_numeral _ _).map _
    | nat128 | nat256 => exact (isStable_word _).map _

end Field

/-! ## Decoders -/

/-- The run ended because the buffer did: it failed as truncated, or it succeeded and left
nothing. -/
def Outcome.IsCutOff {σ α : Type} (outcome : Outcome σ α) (size : Nat) : Prop :=
  IsTruncated outcome.result ∨ ∃ value, outcome.result = .ok value ∧ size ≤ outcome.next

namespace Decoder

variable {σ α β : Type} {le : σ → σ → Prop} {encoding : Encoding} {s : σ}

/-- Every change takes the state up, and the decoder asks for the end only in order to stop there:
if no octet is left it is done, and if it takes all octets that are left, more of them give more. -/
def Accrues (le : σ → σ → Prop) : Decoder σ α → σ → Prop
  | done _, _ => True
  | fail _, _ => True
  | field _ next, s => ∀ value, Accrues le (next value) s
  | raw _ next, s => ∀ piece, Accrues le (next piece) s
  | rest next, s => ∃ (update : List UInt8 → σ → σ) (value : α),
      next = (fun piece => .change (update piece) (.done value)) ∧
        ∀ piece more, le s (update piece s) ∧ le (update piece s) (update (piece ++ more) s)
  | exhausted next, s => (∃ value, next true = .done value) ∧ Accrues le (next false) s
  | position next, s => ∀ pos, Accrues le (next pos) s
  | look next, s => Accrues le (next s) s
  | change update next, s => le s (update s) ∧ Accrues le next (update s)

/-- A run takes the state up. -/
theorem Accrues.le_run (hrefl : ∀ s, le s s) (htrans : ∀ s s' s'', le s s' → le s' s'' → le s s'')
    {d : Decoder σ α} (hd : d.Accrues le s) (encoding : Encoding) (data : Octets) (pos : Nat) :
    le s (d.run encoding data pos s).state := by
  induction d generalizing pos s with
  | done value => exact hrefl s
  | fail error => exact hrefl s
  | field kind next ih =>
    rw [run]
    split
    · exact ih _ (hd _) _
    · exact hrefl s
  | raw count next ih =>
    rw [run]
    split
    · exact ih _ (hd _) _
    · exact hrefl s
  | rest next ih =>
    obtain ⟨update, value, rfl, hle⟩ := hd
    exact (hle (data.after pos) []).1
  | exhausted next ih =>
    obtain ⟨⟨value, hstop⟩, hnext⟩ := hd
    rw [run]
    cases hend : decide (data.size ≤ pos) with
    | true =>
      rw [hstop]
      exact hrefl s
    | false => exact ih _ hnext _
  | position next ih => exact ih _ (hd _) _
  | look next ih => exact ih _ hd _
  | change update next ih => exact htrans _ _ _ hd.1 (ih hd.2 _)

/-- A read that is truncated ends the run and leaves the state. -/
theorem isTruncated_run_field {kind : Field} {data : Octets} {pos : Nat}
    (next : kind.Value → Decoder σ α) (s : σ) (h : (kind.read encoding data pos).IsTruncated) :
    IsTruncated (run encoding data (.field kind next) pos s).result ∧
      (run encoding data (.field kind next) pos s).state = s := by
  obtain ⟨error, hresult, hkind⟩ := h
  cases hread : kind.read encoding data pos with
  | mk result middle =>
  rw [hread] at hresult
  obtain rfl : result = .error error := hresult
  rw [run, hread]
  exact ⟨⟨_, rfl, hkind⟩, rfl⟩

theorem isTruncated_run_raw {count : Nat} {data : Octets} {pos : Nat} (encoding : Encoding)
    (next : List UInt8 → Decoder σ α) (s : σ) (h : (data.take count pos).IsTruncated) :
    IsTruncated (run encoding data (.raw count next) pos s).result ∧
      (run encoding data (.raw count next) pos s).state = s := by
  obtain ⟨error, hresult, hkind⟩ := h
  cases htake : data.take count pos with
  | mk result middle =>
  rw [htake] at hresult
  obtain rfl : result = .error error := hresult
  rw [run, htake]
  exact ⟨⟨_, rfl, hkind⟩, rfl⟩

/-- **More octets.**  If a decoder asks for the end only in order to stop there, and every change
takes the state up, then a longer buffer gives the same run, or the run on the shorter one was cut
off by its end.  Then it left a state below that of the run on the longer one. -/
theorem Accrues.run_append (hrefl : ∀ s, le s s)
    (htrans : ∀ s s' s'', le s s' → le s' s'' → le s s'') {d : Decoder σ α} (hd : d.Accrues le s)
    (encoding : Encoding) (data more : Octets) (pos : Nat) :
    d.run encoding (data ++ more) pos s = d.run encoding data pos s ∨
      (d.run encoding data pos s).IsCutOff data.size ∧
        le (d.run encoding data pos s).state (d.run encoding (data ++ more) pos s).state := by
  induction d generalizing pos s with
  | done value => exact .inl rfl
  | fail error => exact .inl rfl
  | field kind next ih =>
    rcases Field.isStable_read encoding kind data more pos with hsame | htruncated
    · rw [run, run, hsame]
      cases hread : kind.read encoding data pos with
      | mk result middle =>
      cases result with
      | ok value => exact ih value (hd value) middle
      | error error => exact .inl rfl
    · right
      obtain ⟨hrun, hstate⟩ := isTruncated_run_field next s htruncated
      rw [hstate]
      exact ⟨.inl hrun, hd.le_run hrefl htrans encoding (data ++ more) pos⟩
  | raw count next ih =>
    rcases Octets.take_append data more count pos with hsame | htruncated
    · rw [run, run, hsame]
      cases htake : data.take count pos with
      | mk result middle =>
      cases result with
      | ok piece => exact ih piece (hd piece) middle
      | error error => exact .inl rfl
    · right
      obtain ⟨hrun, hstate⟩ := isTruncated_run_raw encoding next s htruncated
      rw [hstate]
      exact ⟨.inl hrun, hd.le_run hrefl htrans encoding (data ++ more) pos⟩
  | rest next ih =>
    right
    obtain ⟨update, value, rfl, hle⟩ := hd
    obtain ⟨piece, hpiece⟩ := Octets.exists_after_append data more pos
    refine ⟨.inr ⟨value, rfl, Nat.le_max_right _ _⟩, ?_⟩
    rw [run, run, hpiece]
    exact (hle _ _).2
  | exhausted next ih =>
    by_cases hend : data.size ≤ pos
    · right
      have hle := hd.le_run hrefl htrans encoding (data ++ more) pos
      obtain ⟨⟨value, hstop⟩, -⟩ := hd
      have hrun : run encoding data (.exhausted next) pos s = ⟨.ok value, pos, s⟩ := by
        rw [run, decide_eq_true hend, hstop, run_done]
      rw [hrun]
      exact ⟨.inr ⟨value, rfl, hend⟩, hle⟩
    · have hmore : ¬(data ++ more).size ≤ pos := by
        rw [Array.size_append]
        omega
      rw [run, run, decide_eq_false hend, decide_eq_false hmore]
      exact ih false hd.2 pos
  | position next ih => exact ih pos (hd pos) pos
  | look next ih => exact ih s hd pos
  | change update next ih => exact ih hd.2 pos

/-- A local decoder runs on a longer buffer as on the shorter one unless it was truncated. -/
theorem IsLocal.run_append {d : Decoder σ α} (hd : d.IsLocal) (encoding : Encoding)
    (data more : Octets) (pos : Nat) (s : σ) :
    d.run encoding (data ++ more) pos s = d.run encoding data pos s ∨
      IsTruncated (d.run encoding data pos s).result := by
  induction hd generalizing pos s with
  | done value => exact .inl rfl
  | fail error => exact .inl rfl
  | field kind _ ih =>
    rcases Field.isStable_read encoding kind data more pos with hsame | htruncated
    · rw [run, run, hsame]
      cases kind.read encoding data pos with
      | mk result middle =>
      cases result with
      | ok value => exact ih value middle s
      | error error => exact .inl rfl
    · exact .inr (isTruncated_run_field _ s htruncated).1
  | raw count _ ih =>
    rcases Octets.take_append data more count pos with hsame | htruncated
    · rw [run, run, hsame]
      cases data.take count pos with
      | mk result middle =>
      cases result with
      | ok piece => exact ih piece middle s
      | error error => exact .inl rfl
    · exact .inr (isTruncated_run_raw encoding _ s htruncated).1
  | look _ ih => exact ih s pos s
  | change update _ ih => exact ih pos (update s)

end Decoder
end GameBox
