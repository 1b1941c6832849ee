import GameBox.Header.Grammar
import GameBox.Proofs.Header.Reading

/-!
# Binary headers are read without loss

What was written is read back (`Header.read_write`).  This module is about the other direction:
whatever octets a binary header was read from, they are those that it is written as.

## What a header was read from

Each part of a header is followed back to its octets: the octets between the two positions are the
ones that the value which was read stands for.  Such statements compose as pieces of a buffer do
(`Octets.Spans.append`), and together they are `Header.spans_of_read`.

## Which octets are headers

`Header.isBinary_iff` connects the description of binary headers by their octets with the headers
that can be written, and `Header.exists_read_binary_iff` says that the reader accepts these and no
others.

## What a header says

The octets can be made again from what a header says (`Header.rebuild?_eq`), although the letters of
its settings are said as text: each character is an octet, those of the fourth octet included.
-/

namespace GameBox

/-! ## Octets as characters -/

theorem Text.toNat_ofNat_octet (b : UInt8) : (Char.ofNat b.toNat).toNat = b.toNat := by
  have hvalid : b.toNat.isValidChar := .inl (Nat.lt_trans b.toNat_lt (by decide))
  rw [Char.ofNat, dif_pos hvalid]
  rfl

theorem Text.latin1?_ofList (bs : List UInt8) :
    Text.latin1? (String.ofList (bs.map fun b => Char.ofNat b.toNat)) = some bs := by
  rw [Text.latin1?, String.toList_ofList]
  induction bs with
  | nil => rfl
  | cons b bs ih =>
    rw [List.map_cons, List.mapM_cons, ih, Text.toNat_ofNat_octet, if_pos b.toNat_lt,
      UInt8.ofNat_toNat]
    rfl

namespace Storage

variable {letters : List UInt8} {storage : Storage} {letter : UInt8}

theorem encodingLetter_of_encoding? {encoding : Encoding} (h : encoding? letter = some encoding) :
    encodingLetter encoding = letter := by
  unfold encoding? at h
  split at h
  · rename_i hletter
    cases h
    exact hletter.symm
  · split at h
    · rename_i hletter
      cases h
      exact hletter.symm
    · cases h

theorem compressedLetter_of_compressed? {compressed : Bool}
    (h : compressed? letter = some compressed) : compressedLetter compressed = letter := by
  unfold compressed? at h
  split at h
  · rename_i hletter
    cases h
    exact hletter.symm
  · split at h
    · rename_i hletter
      cases h
      exact hletter.symm
    · cases h

theorem compressedLetter_decide (h : letter = 0x43 ∨ letter = 0x55) :
    compressedLetter (decide (letter = 0x43)) = letter := by
  rcases h with rfl | rfl <;> rfl

/-- There is at most one octet behind the letters. -/
theorem toList_head? {extra : List UInt8} (h : extra.length ≤ 1) :
    extra.head?.toList = extra := by
  match extra, h with
  | [], _ => rfl
  | [octet], _ => rfl

/-- Settings are made of the letters that name them, if there is at most one octet more. -/
theorem letters_of_ofLetters? (h : ofLetters? letters = some storage)
    (hlength : letters.length ≤ 4) : storage.letters = letters := by
  match letters, h, hlength with
  | first :: second :: third :: extra, h, hlength =>
    simp only [ofLetters?, Option.bind_eq_bind, Option.bind_eq_some_iff, Option.some.injEq] at h
    obtain ⟨encoding, hfirst, refTable, hsecond, body, hthird, rfl⟩ := h
    have hextra : extra.length + 3 ≤ 4 := hlength
    rw [Storage.letters, encodingLetter_of_encoding? hfirst,
      compressedLetter_of_compressed? hsecond, compressedLetter_of_compressed? hthird,
      toList_head? (Nat.le_of_add_le_add_right hextra)]
    rfl

end Storage

namespace Header

variable {data : Octets} {pos next : Nat} {header : Header} {version : UInt16}
variable {storage : Storage} {size : UInt32} {piece : List UInt8}

/-! ## What a header was read from -/

theorem spans_of_versionDecoder
    (h : versionDecoder.run .binary data pos () = ⟨.ok version, next, ()⟩) :
    data.Spans pos next (magic ++ octets 2 version.toNat) ∧ minVersion ≤ version ∧
      version ≤ maxVersion := by
  obtain ⟨prelude, middle, s, hoctets, hcheck⟩ := Decoder.exists_run_of_bind h
  obtain ⟨hspans, hlength⟩ := Octets.spans_of_take (Decoder.take_of_run hoctets).1
  obtain ⟨hmagic, hversion⟩ := Decoder.run_of_unless_fail hcheck
  obtain ⟨hrange, hdone⟩ := Decoder.run_of_unless_fail hversion
  obtain ⟨rfl, rfl, -⟩ := Decoder.pure_of_run hdone
  have hdrop : (prelude.drop 3).length = 2 := by rw [List.length_drop, hlength, preludeSize]
  have hlt := littleEndian_lt (prelude.drop 3)
  rw [hdrop] at hlt
  have hvalue : (UInt16.ofNat (littleEndian (prelude.drop 3))).toNat =
      littleEndian (prelude.drop 3) := Nat.mod_eq_of_lt hlt
  rw [not_or, UInt16.not_lt, UInt16.not_lt] at hrange
  refine ⟨?_, hrange⟩
  rw [hvalue, ← hdrop, octets_littleEndian, ← not_not.1 hmagic, List.take_append_drop]
  exact hspans

/-- Settings of as many letters as a version has belong to the version. -/
theorem isSome_extra_of_length_letters (h : storage.letters.length = storageSize version) :
    storage.extra.isSome ↔ 4 ≤ version := by
  rw [Storage.letters, List.length_append, storageSize] at h
  cases hoctet : storage.extra with
  | none =>
    rw [hoctet] at h
    split at h
    · rename_i hversion
      simp [UInt16.not_le.2 hversion]
    · cases h
  | some octet =>
    rw [hoctet] at h
    split at h
    · cases h
    · rename_i hversion
      simp [UInt16.not_lt.1 hversion]

theorem spans_of_storageDecoder
    (h : (storageDecoder version).run .binary data pos () = ⟨.ok storage, next, ()⟩) :
    data.Spans pos next storage.letters ∧ (storage.extra.isSome ↔ 4 ≤ version) := by
  obtain ⟨letters, middle, s, hoctets, hcheck⟩ := Decoder.exists_run_of_bind h
  obtain ⟨hspans, hlength⟩ := Octets.spans_of_take (Decoder.take_of_run hoctets).1
  split at hcheck
  · rename_i storage' hletters
    obtain ⟨rfl, rfl, -⟩ := Decoder.pure_of_run hcheck
    have hsize : storageSize version ≤ 4 := by
      unfold storageSize
      split <;> decide
    obtain rfl := Storage.letters_of_ofLetters? hletters (hlength.le.trans hsize)
    exact ⟨hspans, isSome_extra_of_length_letters hlength⟩
  · cases hcheck

theorem spans_of_userDataSizeDecoder (hpos : pos ≤ data.size)
    (h : (userDataSizeDecoder version).run .binary data pos () = ⟨.ok size, next, ()⟩) :
    data.Spans pos next (if version < 6 then [] else octets 4 size.toNat) ∧
      size < userDataLimit ∧ (version < 6 → size = 0) := by
  unfold userDataSizeDecoder at h
  split at h
  · rename_i hversion
    obtain ⟨rfl, rfl, -⟩ := Decoder.pure_of_run h
    rw [if_pos hversion]
    exact ⟨.nil hpos, by decide, fun _ => rfl⟩
  · rename_i hversion
    obtain ⟨size', middle, s, hread, hcheck⟩ := Decoder.exists_run_of_bind h
    obtain ⟨hlimit, hdone⟩ := Decoder.run_of_unless_fail hcheck
    obtain ⟨rfl, rfl, -⟩ := Decoder.pure_of_run hdone
    rw [if_neg hversion]
    exact ⟨Field.spans_of_read_nat32 (Decoder.read_of_run hread).1, UInt32.not_le.1 hlimit,
      fun hold => absurd hold hversion⟩

theorem spans_of_fieldsDecoder
    (h : (fieldsDecoder version storage).run .binary data pos () = ⟨.ok header, next, ()⟩) :
    data.Spans pos next (octets 4 header.classId.toNat ++
        if version < 6 then [] else octets 4 header.userDataSize.toNat) ∧
      header.version = version ∧ header.userDataSize < userDataLimit ∧
      (version < 6 → header.userDataSize = 0) := by
  obtain ⟨classId, middle, s, hclass, hrest⟩ := Decoder.exists_run_of_bind h
  obtain ⟨size, middle', s', hsize, hdone⟩ := Decoder.exists_run_of_bind hrest
  obtain ⟨rfl, rfl, -⟩ := Decoder.pure_of_run hdone
  have hclassSpans : data.Spans pos middle (octets 4 classId.toNat) :=
    Field.spans_of_read_nat32 (Decoder.read_of_run hclass).1
  obtain ⟨hsizeSpans, hlimit, hold⟩ := spans_of_userDataSizeDecoder hclassSpans.le_size hsize
  exact ⟨hclassSpans.append hsizeSpans, rfl, hlimit, hold⟩

/-- A binary header was read from what it is written as. -/
theorem spans_of_read (h : read data pos = ⟨.ok header, next⟩)
    (hbinary : header.storage.encoding = .binary) :
    data.Spans pos next header.write ∧ header.IsValid := by
  unfold read at h
  split at h
  · cases h
  · rename_i version storage start s hprelude
    obtain ⟨version', middle, s', hversion, hrest⟩ := Decoder.exists_run_of_bind hprelude
    obtain ⟨storage', middle', s'', hstorage, hdone⟩ := Decoder.exists_run_of_bind hrest
    obtain ⟨hpair, rfl, -⟩ := Decoder.pure_of_run hdone
    obtain ⟨rfl, rfl⟩ := Prod.mk.inj hpair
    cases hfields : (fieldsDecoder version' storage').run storage'.encoding data middle' () with
    | mk result finish s =>
    rw [hfields] at h
    cases h
    obtain rfl := storage_of_fieldsDecoder hfields
    rw [hbinary] at hfields
    obtain ⟨hversionSpans, hmin, hmax⟩ := spans_of_versionDecoder hversion
    obtain ⟨hstorageSpans, hextra⟩ := spans_of_storageDecoder hstorage
    obtain ⟨hfieldsSpans, rfl, hlimit, hold⟩ := spans_of_fieldsDecoder hfields
    refine ⟨?_, hmin, hmax, hextra, hlimit, hold⟩
    rw [write, writeUserDataSize, hbinary, List.append_assoc]
    exact (hversionSpans.append hstorageSpans).append hfieldsSpans

/-! ## Binary headers -/

theorem write_of_binary (hbinary : header.storage.encoding = .binary) :
    header.write = magic ++ octets 2 header.version.toNat ++ header.storage.letters ++
      octets 4 header.classId.toNat ++
        if header.version < 6 then [] else octets 4 header.userDataSize.toNat := by
  rw [write, writeUserDataSize, hbinary]
  rfl

theorem lt_six_iff_toNat : version < 6 ↔ version.toNat < 6 := UInt16.lt_iff_toNat_lt

theorem eq_six_iff_toNat : version = 6 ↔ version.toNat = 6 := UInt16.toNat_inj.symm

/-- The fourth octet of settings is there from version four on. -/
theorem length_toList_extra {extra : Option UInt8} {version : Nat}
    (h : extra.isSome ↔ 4 ≤ version) : extra.toList.length = if version < 4 then 0 else 1 := by
  cases extra with
  | none => rw [if_pos (Nat.not_le.1 fun hle => Bool.false_ne_true (h.2 hle)), Option.toList_none,
      List.length_nil]
  | some octet => rw [if_neg (Nat.not_lt.2 (h.1 rfl)), Option.toList_some, List.length_singleton]

theorem isSome_head?_iff {extra : List UInt8} {version : Nat}
    (h : extra.length = if version < 4 then 0 else 1) : extra.head?.isSome ↔ 4 ≤ version := by
  split at h
  · rename_i hold
    simp [List.eq_nil_of_length_eq_zero h, Nat.not_le.2 hold]
  · rename_i hnew
    obtain ⟨octet, rfl⟩ := List.length_eq_one_iff.1 h
    simp [Nat.not_lt.1 hnew]

theorem isBinary_write (hvalid : header.IsValid) (hbinary : header.storage.encoding = .binary) :
    IsBinary header.write := by
  obtain ⟨hmin, hmax, hextra, hlimit, -⟩ := hvalid
  rw [UInt16.le_iff_toNat_le] at hmin hmax hextra
  rw [write_of_binary hbinary, Storage.letters, hbinary]
  refine .intro ⟨hmin, hmax⟩ ?refTable ?body (length_toList_extra hextra) (length_octets _ _) ?size
  case refTable => cases header.storage.refTableCompressed <;> decide
  case body => cases header.storage.bodyCompressed <;> decide
  case size =>
    by_cases hsix : header.version.toNat = 6
    · rw [if_pos hsix, if_neg (by rw [lt_six_iff_toNat]; omega)]
      refine ⟨length_octets _ _, ?_⟩
      rw [littleEndian_octets 4 _ header.userDataSize.toNat_lt]
      exact UInt32.lt_iff_toNat_lt.1 hlimit
    · rw [if_neg hsix, if_pos (lt_six_iff_toNat.2 (Nat.lt_of_le_of_ne hmax hsix))]

/-- Octets of the form of a binary header are those of the header whose values they stand for. -/
theorem exists_write_eq_of_isBinary (h : IsBinary piece) :
    ∃ header : Header, header.IsValid ∧ header.storage.encoding = .binary ∧
      header.write = piece := by
  obtain ⟨⟨hmin, hmax⟩, hrefTable, hbody, hextra, hclassId, hsize⟩ := h
  rename_i version refTable body extra classId size
  have hversion : (UInt16.ofNat version).toNat = version := Nat.mod_eq_of_lt (by omega)
  have hextraLe : extra.length ≤ 1 := by
    rw [hextra]
    split <;> decide
  have hlimit : littleEndian size < 0x400000 := by
    split at hsize
    · exact hsize.2
    · rw [hsize]
      decide
  refine ⟨⟨UInt16.ofNat version, ⟨.binary, refTable = 0x43, body = 0x43, extra.head?⟩,
    UInt32.ofNat (littleEndian classId), UInt32.ofNat (littleEndian size), 0, 0⟩,
    ⟨?min, ?max, ?extra, ?limit, ?old⟩, rfl, ?write⟩
  case min => exact UInt16.le_iff_toNat_le.2 (hmin.trans_eq hversion.symm)
  case max => exact UInt16.le_iff_toNat_le.2 (hversion.trans_le hmax)
  case extra =>
    rw [UInt16.le_iff_toNat_le, hversion]
    exact isSome_head?_iff hextra
  case limit =>
    rw [UInt32.lt_iff_toNat_lt, UInt32.toNat_ofNat']
    exact Nat.lt_of_le_of_lt (Nat.mod_le _ _) hlimit
  case old =>
    rw [lt_six_iff_toNat, hversion]
    intro hold
    rw [if_neg hold.ne] at hsize
    rw [hsize]
    rfl
  case write =>
    rw [write_of_binary rfl, Storage.letters, Storage.toList_head? hextraLe,
      Storage.compressedLetter_decide hrefTable, Storage.compressedLetter_decide hbody, hversion,
      Field.octets_toNat_ofNat_littleEndian hclassId]
    simp only [lt_six_iff_toNat, hversion]
    split at hsize
    · rename_i hsix
      rw [if_neg hsix.not_lt, Field.octets_toNat_ofNat_littleEndian hsize.1]
      rfl
    · rename_i hsix
      rw [if_pos (Nat.lt_of_le_of_ne hmax hsix), hsize]
      rfl

/-- The octets of a binary header are those that a binary header is written as. -/
theorem isBinary_iff : IsBinary piece ↔
    ∃ header : Header, header.IsValid ∧ header.storage.encoding = .binary ∧
      header.write = piece := by
  constructor
  · exact exists_write_eq_of_isBinary
  · rintro ⟨header, hvalid, hbinary, rfl⟩
    exact isBinary_write hvalid hbinary

/-- A binary header is read exactly from the octets of one. -/
theorem exists_read_binary_iff :
    (∃ header next, read data 0 = ⟨.ok header, next⟩ ∧ header.storage.encoding = .binary) ↔
      ∃ piece, IsBinary piece ∧ piece <+: data.toList := by
  constructor
  · rintro ⟨header, next, h, hbinary⟩
    obtain ⟨hspans, hvalid⟩ := spans_of_read h hbinary
    refine ⟨header.write, isBinary_iff.2 ⟨header, hvalid, hbinary, rfl⟩, ?_⟩
    rw [← hspans.take_toList]
    exact List.take_prefix _ _
  · rintro ⟨piece, hpiece, back, hback⟩
    obtain ⟨header, hvalid, hbinary, rfl⟩ := isBinary_iff.1 hpiece
    have hread := read_write hvalid hbinary [] back
    rw [List.nil_append, hback] at hread
    exact ⟨_, _, hread, hbinary⟩

/-- What a binary header says is enough to write it again. -/
theorem rebuild?_eq (hvalid : header.IsValid) (hbinary : header.storage.encoding = .binary) :
    header.rebuild? = some header.write := by
  have hmax := UInt16.le_iff_toNat_le.1 hvalid.2.1
  have hsix : header.version < 6 ↔ header.version ≠ 6 := by
    rw [Ne, lt_six_iff_toNat, eq_six_iff_toNat]
    exact Nat.lt_iff_le_and_ne.trans (and_iff_right hmax)
  rw [rebuild?, Storage.text, Text.latin1?_ofList, Option.map_some, write_of_binary hbinary]
  by_cases hversion : header.version = 6
  · rw [if_pos hversion, if_neg (by rw [hsix]; exact not_not_intro hversion)]
    rfl
  · rw [if_neg hversion, if_pos (hsix.2 hversion)]
    rfl

end Header
end GameBox
