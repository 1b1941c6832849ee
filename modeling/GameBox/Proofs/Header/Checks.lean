import GameBox.Proofs.Header.Grammar

/-!
# Why a header is refused

The beginning of a file has to meet eight conditions.  How many octets they are about depends on the
version, which is one of the things that are checked, and a condition means something only if those
before it are met.

`Check.Decides` says of a run and a list of conditions that the first one that is not met gives the
error, and that the run gives a certain value if there is none.  It composes: in front of the
conditions of what comes next stand those of what comes first, and what comes next may rely on them
(`Check.Decides.bind`).  So each decoder of the header has its own conditions, and those of the
whole header are a matter of putting lists together (`Header.read_of_firstFailure?`).

Files that name the text encoding are left out.  Behind their letters they are lines, of which none
of the conditions is true.
-/

namespace GameBox

variable {encoding : Encoding} {data : Octets} {pos next : Nat}

namespace Check

variable {α β : Type} {checks checks' : List Check} {outcome : Outcome Unit α} {value : α}
variable {result : β} {next' : Nat} {holds : Bool} {error : DecodeError}

/-- The conditions decide how a run ends: with a value if all of them are met, else with the error
of the first one that is not. -/
def Decides (checks : List Check) (outcome : Outcome Unit α) (value : α) (next : Nat) : Prop :=
  match firstFailure? checks with
  | none => outcome = ⟨.ok value, next, ()⟩
  | some error => outcome.result = .error error

theorem firstFailure?_append (checks checks' : List Check) :
    firstFailure? (checks ++ checks') = (firstFailure? checks).or (firstFailure? checks') := by
  induction checks with
  | nil => rfl
  | cons check checks ih =>
    rw [List.cons_append, firstFailure?, firstFailure?, ih]
    split <;> rfl

theorem firstFailure?_eq_none_iff :
    firstFailure? checks = none ↔ ∀ check ∈ checks, check.holds = true := by
  induction checks with
  | nil => simp [firstFailure?]
  | cons check checks ih =>
    rw [firstFailure?, List.forall_mem_cons]
    split
    · rename_i hholds
      rw [ih, and_iff_right hholds]
    · rename_i hholds
      simp [hholds]

theorem Decides.bind {d : Decoder Unit α} {f : α → Decoder Unit β}
    (h : Decides checks (d.run encoding data pos ()) value next)
    (h' : firstFailure? checks = none →
      Decides checks' ((f value).run encoding data next ()) result next') :
    Decides (checks ++ checks') ((d.bind f).run encoding data pos ()) result next' := by
  rw [Decides, firstFailure?_append]
  unfold Decides at h
  cases hfirst : firstFailure? checks with
  | none =>
    rw [hfirst] at h
    rw [Option.none_or, Decoder.run_bind_of_run h]
    exact h' hfirst
  | some error =>
    rw [hfirst] at h
    dsimp only at h
    rw [Option.some_or, Decoder.run_bind]
    cases hrun : d.run encoding data pos () with
    | mk outcome finish s =>
    rw [hrun] at h
    dsimp only at h
    rw [h]

theorem Decides.cons_of_holds (h : Decides checks outcome value next) (hholds : holds = true) :
    Decides (⟨holds, error⟩ :: checks) outcome value next := by
  rw [Decides, firstFailure?, if_pos hholds]
  exact h

theorem Decides.cons_of_not (h : outcome.result = .error error) (hholds : ¬holds = true) :
    Decides (⟨holds, error⟩ :: checks) outcome value next := by
  rw [Decides, firstFailure?, if_neg hholds]
  exact h

/-- A decoder that may refuse what it read checks that it need not. -/
theorem Decides.unless {refused : Prop} [Decidable refused] {d : Decoder Unit α}
    (hholds : holds = true ↔ ¬refused)
    (h : ¬refused → Decides checks (d.run encoding data pos ()) value next) :
    Decides (⟨holds, error⟩ :: checks)
      ((if refused then .fail error else d).run encoding data pos ()) value next := by
  by_cases hrefused : refused
  · rw [if_pos hrefused]
    exact .cons_of_not rfl fun hh => hholds.1 hh hrefused
  · rw [if_neg hrefused]
    exact .cons_of_holds (h hrefused) (hholds.2 hrefused)

theorem decides_octets (encoding : Encoding) (data : Octets) (pos count : Nat) :
    Decides [⟨pos + count ≤ data.size, .read (.truncated count (data.size - pos))⟩]
      ((Decoder.octets count).run encoding data pos ()) ((data.toList.drop pos).take count)
      (pos + count) := by
  by_cases hsize : pos + count ≤ data.size
  · refine .cons_of_holds ?_ (decide_eq_true hsize)
    rw [Decoder.octets, Decoder.run_raw_of_take (Octets.take_of_le hsize)]
    rfl
  · refine .cons_of_not ?_ (by simpa using hsize)
    rw [Decoder.octets, Decoder.run_raw_of_error (Octets.take_of_lt (Nat.not_le.1 hsize))]
    rfl

/-- A word of a binary file can be read if its octets are there. -/
theorem decides_read {kind : Field} {value : kind.Value}
    (hle : pos + 4 ≤ data.size → kind.read .binary data pos = ⟨.ok value, pos + 4⟩)
    (hlt : data.size < pos + 4 →
      kind.read .binary data pos = ⟨.error (.truncated 4 (data.left pos)), pos⟩) :
    Decides [⟨pos + 4 ≤ data.size, .read (.truncated 4 (data.size - pos))⟩]
      ((Decoder.read kind).run .binary data pos ()) value (pos + 4) := by
  by_cases hsize : pos + 4 ≤ data.size
  · refine .cons_of_holds ?_ (decide_eq_true hsize)
    rw [Decoder.read, Decoder.run_field_of_read (hle hsize)]
    rfl
  · refine .cons_of_not ?_ (by simpa using hsize)
    rw [Decoder.read, Decoder.run_field_of_error (hlt (Nat.not_le.1 hsize))]
    rfl

end Check

namespace Storage

theorem compressed?_eq (letter : UInt8) : compressed? letter =
    if letter = 0x43 ∨ letter = 0x55 then some (decide (letter = 0x43)) else none := by
  unfold compressed?
  by_cases hletter : letter = 0x43
  · simp [hletter]
  · simp [hletter]

/-- The letters that are accepted behind the one of the binary encoding. -/
theorem ofLetters?_of_ne_text {first second third : UInt8} (extra : List UInt8)
    (h : first ≠ 0x54) :
    ofLetters? (first :: second :: third :: extra) =
      if first = 0x42 ∧ (second = 0x43 ∨ second = 0x55) ∧ (third = 0x43 ∨ third = 0x55) then
        some ⟨.binary, second = 0x43, third = 0x43, extra.head?⟩
      else none := by
  rw [ofLetters?, encoding?, if_neg h, compressed?_eq, compressed?_eq]
  by_cases hfirst : first = 0x42 <;> by_cases hsecond : second = 0x43 ∨ second = 0x55 <;>
    by_cases hthird : third = 0x43 ∨ third = 0x55 <;> simp [hfirst, hsecond, hthird]

end Storage

namespace Header

open Check

/-- The version that a file has if its first octets are those of a header. -/
def storedVersion (data : Octets) : Nat := littleEndian ((data.toList.drop 3).take 2)

theorem toNat_ofNat_storedVersion (data : Octets) :
    (UInt16.ofNat (storedVersion data)).toNat = storedVersion data := by
  have hlt := littleEndian_lt ((data.toList.drop 3).take 2)
  have hle : 256 ^ ((data.toList.drop 3).take 2).length ≤ 256 ^ 2 :=
    Nat.pow_le_pow_right (by decide) (List.length_take_le _ _)
  exact Nat.mod_eq_of_lt (Nat.lt_of_lt_of_le hlt hle)

theorem decides_versionDecoder (encoding : Encoding) (data : Octets) :
    Decides [⟨5 ≤ data.size, .read (.truncated 5 data.size)⟩,
      ⟨data.toList.take 3 = [0x47, 0x42, 0x58], .invalidMagic (data.toList.take 3)⟩,
      ⟨3 ≤ storedVersion data ∧ storedVersion data ≤ 6,
        .unsupportedVersion (UInt16.ofNat (storedVersion data))⟩]
      (versionDecoder.run encoding data 0 ()) (UInt16.ofNat (storedVersion data)) 5 := by
  have hprelude := decides_octets encoding data 0 preludeSize
  refine hprelude.bind fun _ => ?_
  have htake : ((data.toList.drop 0).take preludeSize).take 3 = data.toList.take 3 := by
    rw [List.drop_zero, List.take_take]
    rfl
  have hdrop : ((data.toList.drop 0).take preludeSize).drop 3 = (data.toList.drop 3).take 2 := by
    rw [List.drop_zero, List.drop_take]
    rfl
  dsimp only
  rw [htake, hdrop]
  refine Decides.unless (by simp [magic]) fun _ => Decides.unless ?_ fun _ => rfl
  have hvalue := toNat_ofNat_storedVersion data
  rw [decide_eq_true_iff, not_or, UInt16.not_lt, UInt16.not_lt, UInt16.le_iff_toNat_le,
    UInt16.le_iff_toNat_le, ← hvalue]
  exact Iff.rfl

/-- The octets of the storage settings of a version. -/
def storedWidth (version : Nat) : Nat := if version < 4 then 3 else 4

/-- The settings that a file has if its letters are those of a binary file. -/
def storedStorage (data : Octets) (width : Nat) : Storage :=
  ⟨.binary, data[6]? = some 0x43, data[7]? = some 0x43,
    ((data.toList.drop 8).take (width - 3)).head?⟩

/-- Octets that are there are three letters and what stands behind them. -/
theorem exists_letters {width : Nat} (hthree : 3 ≤ width) (hsize : 5 + width ≤ data.size) :
    ∃ first second third, data[5]? = some first ∧ data[6]? = some second ∧
      data[7]? = some third ∧ (data.toList.drop 5).take width =
        first :: second :: third :: (data.toList.drop 8).take (width - 3) := by
  obtain ⟨more, rfl⟩ := Nat.exists_eq_add_of_le' hthree
  have hletter (place : Nat) (hplace : place < 8) : ∃ letter, data[place]? = some letter :=
    ⟨_, Array.getElem?_eq_getElem (by omega)⟩
  obtain ⟨first, hfirst⟩ := hletter 5 (by decide)
  obtain ⟨second, hsecond⟩ := hletter 6 (by decide)
  obtain ⟨third, hthird⟩ := hletter 7 (by decide)
  refine ⟨first, second, third, hfirst, hsecond, hthird, ?_⟩
  rw [List.drop_eq_getElem?_toList_append, List.drop_eq_getElem?_toList_append (i := 6),
    List.drop_eq_getElem?_toList_append (i := 7), Array.getElem?_toList, Array.getElem?_toList,
    Array.getElem?_toList, hfirst, hsecond, hthird]
  rfl

theorem decides_storageDecoder (encoding : Encoding) (hletter : data[5]? ≠ some 0x54)
    {version : UInt16} {width : Nat} (hwidth : storageSize version = width) :
    Decides [⟨5 + width ≤ data.size, .read (.truncated width (data.size - 5))⟩,
      ⟨data[5]? = some 0x42 ∧ (data[6]? = some 0x43 ∨ data[6]? = some 0x55) ∧
        (data[7]? = some 0x43 ∨ data[7]? = some 0x55),
      .invalidStorageSettings (Utf8.decode ((data.toList.drop 5).take width))⟩]
      ((storageDecoder version).run encoding data 5 ()) (storedStorage data width)
      (5 + width) := by
  subst hwidth
  have hletters := decides_octets encoding data 5 (storageSize version)
  refine hletters.bind fun hpassed => ?_
  have hsize : 5 + storageSize version ≤ data.size := by
    simpa using firstFailure?_eq_none_iff.1 hpassed
  have hthree : 3 ≤ storageSize version := by
    unfold storageSize
    split <;> decide
  obtain ⟨first, second, third, hfirst, hsecond, hthird, hcut⟩ := exists_letters hthree hsize
  rw [hfirst, Ne, Option.some_inj] at hletter
  have hnamed := @Storage.ofLetters?_of_ne_text first second third
    ((data.toList.drop 8).take (storageSize version - 3)) hletter
  rw [← hcut] at hnamed
  rw [hnamed, hfirst, hsecond, hthird]
  simp only [Option.some.injEq]
  by_cases hvalid :
      first = 0x42 ∧ (second = 0x43 ∨ second = 0x55) ∧ (third = 0x43 ∨ third = 0x55)
  · rw [if_pos hvalid]
    refine .cons_of_holds ?_ (decide_eq_true hvalid)
    rw [storedStorage, hsecond, hthird]
    simp only [Option.some.injEq]
    rfl
  · rw [if_neg hvalid]
    exact .cons_of_not rfl (by simpa using hvalid)

theorem decides_userDataSizeDecoder (data : Octets) (pos : Nat) {version : UInt16}
    (hmax : version.toNat ≤ 6) :
    ∃ size next, Decides [⟨version.toNat ≠ 6 ∨ pos + 4 ≤ data.size,
        .read (.truncated 4 (data.size - pos))⟩,
      ⟨version.toNat ≠ 6 ∨ littleEndian ((data.toList.drop pos).take 4) < 0x400000,
        .read (.limitExceeded .userDataSize (littleEndian ((data.toList.drop pos).take 4))
          0x400000)⟩]
      ((userDataSizeDecoder version).run .binary data pos ()) size next := by
  unfold userDataSizeDecoder
  by_cases hsix : version.toNat = 6
  · rw [if_neg (by rw [UInt16.lt_iff_toNat_lt, hsix]; decide)]
    simp only [hsix, ne_eq, not_true_eq_false, false_or]
    have hword : Decides [⟨pos + 4 ≤ data.size, .read (.truncated 4 (data.size - pos))⟩]
        ((Decoder.read .nat32).run .binary data pos ())
        (UInt32.ofNat (littleEndian ((data.toList.drop pos).take 4))) (pos + 4) :=
      decides_read Field.read_nat32_of_le Field.read_nat32_of_lt
    have hvalue := Field.toNat_ofNat_littleEndian (List.length_take_le 4 (data.toList.drop pos))
    generalize UInt32.ofNat (littleEndian ((data.toList.drop pos).take 4)) = size at hword hvalue
    rw [← hvalue]
    refine ⟨size, pos + 4, hword.bind fun _ => Decides.unless ?_ fun _ => ?_⟩
    · rw [decide_eq_true_iff, UInt32.not_le, UInt32.lt_iff_toNat_lt]
      exact Iff.rfl
    · rfl
  · rw [if_pos (UInt16.lt_iff_toNat_lt.2 (Nat.lt_of_le_of_ne hmax hsix))]
    refine ⟨0, pos, .cons_of_holds (.cons_of_holds rfl ?_) ?_⟩
    · exact decide_eq_true (.inl hsix)
    · exact decide_eq_true (.inl hsix)

theorem decides_fieldsDecoder (data : Octets) (pos : Nat) {version : UInt16} (storage : Storage)
    (hmax : version.toNat ≤ 6) :
    ∃ header next, Decides [⟨pos + 4 ≤ data.size, .read (.truncated 4 (data.size - pos))⟩,
      ⟨version.toNat ≠ 6 ∨ pos + 4 + 4 ≤ data.size, .read (.truncated 4 (data.size - (pos + 4)))⟩,
      ⟨version.toNat ≠ 6 ∨ littleEndian ((data.toList.drop (pos + 4)).take 4) < 0x400000,
        .read (.limitExceeded .userDataSize (littleEndian ((data.toList.drop (pos + 4)).take 4))
          0x400000)⟩]
      ((fieldsDecoder version storage).run .binary data pos ()) header next := by
  have hclass : Decides [⟨pos + 4 ≤ data.size, .read (.truncated 4 (data.size - pos))⟩]
      ((Decoder.read .mask).run .binary data pos ())
      (UInt32.ofNat (littleEndian ((data.toList.drop pos).take 4))) (pos + 4) :=
    decides_read Field.read_nat32_of_le Field.read_nat32_of_lt
  obtain ⟨size, next, hsize⟩ := decides_userDataSizeDecoder data (pos + 4) hmax
  exact ⟨_, next, hclass.bind fun _ => hsize.bind fun _ => rfl⟩

theorem decides_preludeDecoder (encoding : Encoding) (hletter : data[5]? ≠ some 0x54) :
    Decides ((binaryChecks data).take 5) (preludeDecoder.run encoding data 0 ())
      (UInt16.ofNat (storedVersion data), storedStorage data (storedWidth (storedVersion data)))
      (5 + storedWidth (storedVersion data)) := by
  have hwidth : storageSize (UInt16.ofNat (storedVersion data)) =
      storedWidth (storedVersion data) := by
    rw [storageSize, storedWidth, ← toNat_ofNat_storedVersion data, UInt16.ofNat_toNat]
    rfl
  exact (decides_versionDecoder encoding data).bind fun _ =>
    (decides_storageDecoder encoding hletter hwidth).bind fun _ => rfl

theorem result_read_of_prelude_error {error : DecodeError}
    (h : (preludeDecoder.run .binary data pos ()).result = .error error) :
    (read data pos).result = .error error := by
  cases hrun : preludeDecoder.run .binary data pos () with
  | mk result next s =>
  rw [hrun] at h
  dsimp only at h
  subst h
  rw [read, hrun]

/-- A header whose letters were read is read as its other fields are. -/
theorem read_of_prelude {version : UInt16} {storage : Storage}
    (h : preludeDecoder.run .binary data pos () = ⟨.ok (version, storage), next, ()⟩) :
    read data pos =
      ⟨((fieldsDecoder version storage).run storage.encoding data next ()).result,
        ((fieldsDecoder version storage).run storage.encoding data next ()).next⟩ := by
  rw [read, h]

/-- If the third condition is met, there is a version that a header can have. -/
theorem storedVersion_le (h : firstFailure? ((binaryChecks data).take 5) = none) :
    storedVersion data ≤ 6 := by
  have hrange := firstFailure?_eq_none_iff.1 h _ (List.mem_of_getElem? (i := 2) rfl)
  exact (of_decide_eq_true hrange).2

/-- Behind the letters the other three conditions decide. -/
theorem exists_decides_fieldsDecoder (h : firstFailure? ((binaryChecks data).take 5) = none) :
    ∃ header next, Decides ((binaryChecks data).drop 5)
      ((fieldsDecoder (UInt16.ofNat (storedVersion data))
        (storedStorage data (storedWidth (storedVersion data)))).run .binary data
          (5 + storedWidth (storedVersion data)) ()) header next := by
  have hvalue := toNat_ofNat_storedVersion data
  obtain ⟨header, next, hfields⟩ := decides_fieldsDecoder data
    (5 + storedWidth (storedVersion data))
    (storedStorage data (storedWidth (storedVersion data)))
    (hvalue.trans_le (storedVersion_le h))
  rw [hvalue] at hfields
  exact ⟨header, next, hfields⟩

/-- A file that does not name the text encoding is refused for the first condition that it does not
meet. -/
theorem read_of_firstFailure? (hletter : data[5]? ≠ some 0x54) :
    match firstFailure? (binaryChecks data) with
    | none => ∃ header next, read data 0 = ⟨.ok header, next⟩ ∧ header.storage.encoding = .binary
    | some error => (read data 0).result = .error error := by
  have hprelude := decides_preludeDecoder .binary hletter
  rw [← List.take_append_drop 5 (binaryChecks data), firstFailure?_append]
  unfold Decides at hprelude
  cases hfirst : firstFailure? ((binaryChecks data).take 5) with
  | some error =>
    rw [hfirst] at hprelude
    exact result_read_of_prelude_error hprelude
  | none =>
    rw [hfirst] at hprelude
    obtain ⟨header, next, hfields⟩ := exists_decides_fieldsDecoder hfirst
    rw [Option.none_or, read_of_prelude hprelude]
    unfold Decides at hfields
    cases hrest : firstFailure? ((binaryChecks data).drop 5) with
    | some error =>
      rw [hrest] at hfields
      exact hfields
    | none =>
      rw [hrest] at hfields
      dsimp only at hfields
      refine ⟨header, next, ?_, ?_⟩
      · exact congrArg (fun outcome => Found.mk outcome.result outcome.next) hfields
      · rw [storage_of_fieldsDecoder hfields]
        rfl

theorem isRaw_versionDecoder : versionDecoder.IsRaw := by
  refine (Decoder.isRaw_octets _).bind fun prelude => ?_
  dsimp only
  split
  · exact .fail _
  · split
    · exact .fail _
    · exact .done _

theorem isRaw_storageDecoder (version : UInt16) : (storageDecoder version).IsRaw := by
  refine (Decoder.isRaw_octets _).bind fun letters => ?_
  split
  · exact .done _
  · exact .fail _

/-- Up to the letters a header is read as octets. -/
theorem isRaw_preludeDecoder : preludeDecoder.IsRaw :=
  isRaw_versionDecoder.bind fun version => (isRaw_storageDecoder version).bind fun _ => .done _

/-- The encoding to which a reader is set does not matter: up to the letters only octets are read,
and from then on the letters decide. -/
theorem readIn_eq_read (initial : Encoding) (data : Octets) (pos : Nat) :
    readIn initial data pos = read data pos := by
  show readIn initial data pos = readIn .binary data pos
  rw [readIn, readIn, isRaw_preludeDecoder.run_eq initial .binary]

/-- **Binary headers are accepted exactly and read without loss.**  Whatever encoding the reader is
set to, a file is read as one with a binary header exactly if it begins with the octets of one.  The
octets that are consumed can be made from what the header says, so that equal headers were read from
equal octets.  Every other file that does not name the text encoding is refused for the first
condition that it does not meet. -/
theorem read_binary_exactly (initial : Encoding) (data : Octets) :
    readIn initial data 0 = read data 0 ∧
    ((∃ header next, read data 0 = ⟨.ok header, next⟩ ∧ header.storage.encoding = .binary) ↔
      ∃ piece, IsBinary piece ∧ piece <+: data.toList) ∧
    (∀ header next, read data 0 = ⟨.ok header, next⟩ → header.storage.encoding = .binary →
      next ≤ data.size ∧ header.rebuild? = some (data.toList.take next)) ∧
    (∀ (data' : Octets) header next next', read data 0 = ⟨.ok header, next⟩ →
      read data' 0 = ⟨.ok header, next'⟩ → header.storage.encoding = .binary →
        next = next' ∧ data.toList.take next = data'.toList.take next') ∧
    (data[5]? ≠ some 0x54 → (¬∃ piece, IsBinary piece ∧ piece <+: data.toList) →
      ∃ error, Check.firstFailure? (binaryChecks data) = some error ∧
        (read data 0).result = .error error) := by
  refine ⟨readIn_eq_read initial data 0, exists_read_binary_iff, fun header next h hbinary => ?_,
    fun data' header next next' h h' hbinary => ?_, fun hletter hnone => ?_⟩
  · obtain ⟨hspans, hvalid⟩ := spans_of_read h hbinary
    rw [rebuild?_eq hvalid hbinary, hspans.take_toList]
    exact ⟨hspans.le_size, rfl⟩
  · obtain ⟨hspans, -⟩ := spans_of_read h hbinary
    obtain ⟨hspans', -⟩ := spans_of_read h' hbinary
    rw [hspans.take_toList, hspans'.take_toList]
    exact ⟨hspans.eq_add_length.trans hspans'.eq_add_length.symm, rfl⟩
  · rw [← exists_read_binary_iff] at hnone
    have hread := read_of_firstFailure? hletter
    cases hfirst : firstFailure? (binaryChecks data) with
    | none =>
      rw [hfirst] at hread
      exact absurd hread hnone
    | some error =>
      rw [hfirst] at hread
      exact ⟨error, rfl, hread⟩

/-- A header of the last version with a fourth octet that is no ASCII letter is read without loss,
and one that is cut off in its class is refused for this. -/
theorem read_binary_exactly_sixth :
    let data : Octets := #[0x47, 0x42, 0x58, 6, 0, 0x42, 0x55, 0x43, 0xFF, 0, 0x30, 4, 3,
      0, 0, 0, 0, 1, 2]
    let header : Header := ⟨6, ⟨.binary, false, true, some 0xFF⟩, 0x03043000, 0, 0, 0⟩
    let cut : Octets := #[0x47, 0x42, 0x58, 6, 0, 0x42, 0x55, 0x43, 0xFF, 0, 0x30]
    read data 0 = ⟨.ok header, 17⟩ ∧ header.rebuild? = some (data.toList.take 17) ∧
      ∃ error, Check.firstFailure? (binaryChecks cut) = some error ∧
        (read cut 0).result = .error error := by
  intro data header cut
  have hread : read data 0 = ⟨.ok header, 17⟩ := by
    simp only [data, header]
    rfl
  obtain ⟨-, -, hlossless, -⟩ := read_binary_exactly .text data
  obtain ⟨-, hiff, -, -, hrefused⟩ := read_binary_exactly .text cut
  refine ⟨hread, (hlossless header 17 hread rfl).2, hrefused (by decide) ?_⟩
  rw [← hiff]
  rintro ⟨header', next, h, -⟩
  cases h

end Header
end GameBox
