import GameBox.Header.Write
import GameBox.Proofs.Reading.Decoder

/-!
# Reading headers

A header is read in two parts.  The first one is binary in every file and names the encoding in
which the second one is read.  The counts behind the user data are a third part, which is read into
the header later.

## What a header that was read tells

Only the bounds matter to what follows: `Header.bounds_of_read` says that a binary header is short
and that the user data it announces is below its limit, and `Header.eq_of_readCounts` that the
counts change nothing else.

## What a header that was written gives back

`Header.read_write` and `Header.reads_countsDecoder` are the two round trips.  Each is put together
from one statement for every decoder, and a decoder that may refuse what it reads takes as its
hypothesis that it does not.
-/

namespace GameBox
namespace Header

variable {data : Octets} {pos next : Nat} {header counted : Header} {version : UInt16}
variable {storage : Storage} {size : UInt32}

/-! ## How far a header reaches -/

theorem next_of_versionDecoder (h : versionDecoder.run .binary data pos () =
    ⟨.ok version, next, ()⟩) : next = pos + preludeSize := by
  obtain ⟨prelude, middle, s, hoctets, hcheck⟩ := Decoder.exists_run_of_bind h
  have hmiddle := Octets.next_of_take (Decoder.take_of_run hoctets).1
  obtain ⟨-, hversion⟩ := Decoder.run_of_unless_fail hcheck
  obtain ⟨-, hdone⟩ := Decoder.run_of_unless_fail hversion
  rw [← (Decoder.pure_of_run hdone).2.1, hmiddle]

theorem next_of_storageDecoder (h : (storageDecoder version).run .binary data pos () =
    ⟨.ok storage, next, ()⟩) : next = pos + storageSize version := by
  obtain ⟨letters, middle, s, hoctets, hcheck⟩ := Decoder.exists_run_of_bind h
  have hmiddle := Octets.next_of_take (Decoder.take_of_run hoctets).1
  split at hcheck
  · rw [← (Decoder.pure_of_run hcheck).2.1, hmiddle]
  · simp at hcheck

theorem bounds_of_userDataSizeDecoder (h : (userDataSizeDecoder version).run .binary data pos () =
    ⟨.ok size, next, ()⟩) : next ≤ pos + 4 ∧ size < userDataLimit := by
  unfold userDataSizeDecoder at h
  split at h
  · obtain ⟨rfl, rfl, -⟩ := Decoder.pure_of_run h
    exact ⟨Nat.le_add_right _ _, by decide⟩
  · obtain ⟨size', middle, s, hread, hcheck⟩ := Decoder.exists_run_of_bind h
    have hmiddle := Field.next_of_read_nat32 (Decoder.read_of_run hread).1
    obtain ⟨hlimit, hdone⟩ := Decoder.run_of_unless_fail hcheck
    obtain ⟨rfl, rfl, -⟩ := Decoder.pure_of_run hdone
    exact ⟨hmiddle.le, UInt32.not_le.mp hlimit⟩

/-- The fields of a header are read behind its settings and keep them. -/
theorem storage_of_fieldsDecoder {encoding : Encoding}
    (h : (fieldsDecoder version storage).run encoding data pos () = ⟨.ok header, next, ()⟩) :
    header.storage = storage := by
  obtain ⟨classId, middle, s, hclass, hrest⟩ := Decoder.exists_run_of_bind h
  obtain ⟨size, middle', s', hsize, hdone⟩ := Decoder.exists_run_of_bind hrest
  rw [← (Decoder.pure_of_run hdone).1]

theorem bounds_of_fieldsDecoder (h : (fieldsDecoder version storage).run .binary data pos () =
    ⟨.ok header, next, ()⟩) : next ≤ pos + 8 ∧ header.userDataSize < userDataLimit := by
  obtain ⟨classId, middle, s, hclass, hrest⟩ := Decoder.exists_run_of_bind h
  obtain ⟨size, middle', s', hsize, hdone⟩ := Decoder.exists_run_of_bind hrest
  have hmiddle := Field.next_of_read_mask (Decoder.read_of_run hclass).1
  have hbounds := bounds_of_userDataSizeDecoder hsize
  obtain ⟨rfl, rfl, -⟩ := Decoder.pure_of_run hdone
  exact ⟨by omega, hbounds.2⟩

/-- A binary header takes at most 17 octets, and announces less user data than the limit. -/
theorem bounds_of_read (h : read data pos = ⟨.ok header, next⟩)
    (hbinary : header.storage.encoding = .binary) :
    next ≤ pos + 17 ∧ header.userDataSize < userDataLimit := by
  unfold read at h
  split at h
  · simp at h
  · rename_i version storage start s hprelude
    obtain ⟨version', middle, s', hversion, hrest⟩ := Decoder.exists_run_of_bind hprelude
    obtain ⟨storage', middle', s'', hstorage, hdone⟩ := Decoder.exists_run_of_bind hrest
    obtain ⟨hpair, rfl, -⟩ := Decoder.pure_of_run hdone
    obtain ⟨rfl, rfl⟩ := Prod.mk.inj hpair
    have hmiddle := next_of_versionDecoder hversion
    have hstart := next_of_storageDecoder hstorage
    have hsize : storageSize version' ≤ 4 := by
      unfold storageSize
      split <;> decide
    cases hfields : (fieldsDecoder version' storage').run storage'.encoding data middle' () with
    | mk result finish s =>
    rw [hfields] at h
    simp only [Found.mk.injEq] at h
    obtain ⟨rfl, rfl⟩ := h
    rw [← storage_of_fieldsDecoder hfields, hbinary] at hfields
    have hbounds := bounds_of_fieldsDecoder hfields
    rw [preludeSize] at hmiddle
    exact ⟨by omega, hbounds.2⟩

/-! ## The counts -/

/-- Reading the counts changes nothing but the counts. -/
theorem eq_of_readCounts (h : header.readCounts data pos = ⟨.ok (), next, counted⟩) :
    ∃ nodes externalRefs, counted = { header with nodes, externalRefs } := by
  obtain ⟨nodes, middle, s, hnodes, hrest⟩ := Decoder.exists_run_of_bind h
  obtain ⟨-, rfl⟩ := Decoder.read_of_run hnodes
  obtain ⟨_, middle', s', hmodify, hrest'⟩ := Decoder.exists_run_of_bind hrest
  obtain ⟨externalRefs, middle'', s'', hrefs, hcheck⟩ := Decoder.exists_run_of_bind hrest'
  obtain ⟨-, rfl⟩ := Decoder.read_of_run hrefs
  obtain ⟨-, rfl⟩ := Decoder.modify_of_run hmodify
  obtain ⟨-, hdone⟩ := Decoder.run_of_unless_fail hcheck
  obtain ⟨-, rfl⟩ := Decoder.modify_of_run hdone
  exact ⟨nodes, externalRefs, rfl⟩

/-! ## Written headers -/

theorem reads_versionDecoder (hmin : minVersion ≤ version) (hmax : version ≤ maxVersion) :
    Decoder.Reads .binary versionDecoder () (magic ++ octets 2 version.toNat) version () := by
  have hlength : (magic ++ octets 2 version.toNat).length = preludeSize := by
    rw [List.length_append, length_octets]
    rfl
  have hmagic : (magic ++ octets 2 version.toNat).take 3 = magic := List.take_left' rfl
  have hdrop : (magic ++ octets 2 version.toNat).drop 3 = octets 2 version.toNat :=
    List.drop_left' rfl
  refine (Decoder.Reads.octets hlength ()).finish ?_
  dsimp only
  rw [hmagic, hdrop, littleEndian_octets 2 _ version.toNat_lt, UInt16.ofNat_toNat,
    if_neg (not_not_intro rfl), if_neg]
  · exact .done _ _
  · rw [not_or, UInt16.not_lt, UInt16.not_lt]
    exact ⟨hmin, hmax⟩

theorem length_letters (hextra : storage.extra.isSome ↔ 4 ≤ version) :
    storage.letters.length = storageSize version := by
  have hletters : storage.letters.length = 3 + storage.extra.toList.length := by
    rw [Storage.letters, List.length_append]
    rfl
  rw [hletters, storageSize]
  cases hoctet : storage.extra with
  | none =>
    rw [hoctet] at hextra
    rw [if_pos (UInt16.not_le.mp fun hle => absurd (hextra.2 hle) (by simp))]
    rfl
  | some octet =>
    rw [hoctet] at hextra
    rw [if_neg (UInt16.not_lt.mpr (hextra.1 rfl))]
    rfl

theorem reads_storageDecoder (hextra : storage.extra.isSome ↔ 4 ≤ version) :
    Decoder.Reads .binary (storageDecoder version) () storage.letters storage () := by
  refine (Decoder.Reads.octets (length_letters hextra) ()).finish ?_
  rw [Storage.ofLetters?_letters]
  exact .done _ _

theorem reads_userDataSizeDecoder (hlimit : size < userDataLimit)
    (hold : version < 6 → size = 0) :
    Decoder.Reads .binary (userDataSizeDecoder version) ()
      (if version < 6 then [] else octets 4 size.toNat) size () := by
  unfold userDataSizeDecoder
  by_cases hversion : version < 6
  · rw [if_pos hversion, if_pos hversion, hold hversion]
    exact .done _ _
  · rw [if_neg hversion, if_neg hversion]
    refine (Decoder.Reads.read (Field.reads_nat32 size) ()).finish ?_
    rw [if_neg (UInt32.not_le.mpr hlimit)]
    exact .done _ _

/-- A header that was written is read back, with counts of zero. -/
theorem read_write (hvalid : header.IsValid) (hbinary : header.storage.encoding = .binary)
    (front back : List UInt8) :
    read (front ++ header.write ++ back).toArray front.length =
      ⟨.ok { header with nodes := 0, externalRefs := 0 },
        front.length + header.write.length⟩ := by
  obtain ⟨hmin, hmax, hextra, hlimit, hold⟩ := hvalid
  have hprelude : Decoder.Reads .binary preludeDecoder () header.writePrelude
      (header.version, header.storage) () :=
    (reads_versionDecoder hmin hmax).bind
      ((reads_storageDecoder hextra).finish (.done _ _))
  have hfields : Decoder.Reads .binary (fieldsDecoder header.version header.storage) ()
      (Field.write header.storage.encoding .mask header.classId ++ header.writeUserDataSize)
      { header with nodes := 0, externalRefs := 0 } () := by
    rw [writeUserDataSize, hbinary]
    exact (Decoder.Reads.read (Field.reads_mask header.classId) ()).bind
      ((reads_userDataSizeDecoder hlimit hold).finish (.done _ _))
  -- The second part is read in the encoding that the first part names.
  have hfirst := hprelude front
    (Field.write header.storage.encoding .mask header.classId ++ header.writeUserDataSize ++ back)
  have hsecond := hfields (front ++ header.writePrelude) back
  have hwrite : front ++ header.write ++ back = front ++ header.writePrelude ++
      (Field.write header.storage.encoding .mask header.classId ++ header.writeUserDataSize ++
        back) := by
    simp only [write, List.append_assoc]
  rw [← hwrite] at hfirst
  rw [List.append_assoc (front ++ _), ← hwrite, List.length_append] at hsecond
  simp only [read, hfirst, hbinary, hsecond]
  simp only [write, hbinary, List.length_append, Nat.add_assoc]

/-- Counts that were written are read back into a header. -/
theorem reads_countsDecoder (header : Header) (nodes : UInt32) {externalRefs : UInt32}
    (hlimit : externalRefs < externalRefLimit) :
    Decoder.Reads .binary countsDecoder header
      (octets 4 nodes.toNat ++ octets 4 externalRefs.toNat) ()
      { header with nodes, externalRefs } := by
  refine (Decoder.Reads.read (Field.reads_nat32 nodes) header).bind ?_
  refine (Decoder.Reads.modify _ header).bind ?_
  refine (Decoder.Reads.read (Field.reads_nat32 externalRefs) _).finish ?_
  rw [if_neg (UInt32.not_le.mpr hlimit)]
  exact Decoder.Reads.modify _ _

end Header
end GameBox
