import GameBox.Identifier.Encoder
import GameBox.Proofs.Identifier.RoundTrip
import GameBox.Proofs.Reading.Refusal
import GameBox.Proofs.Reading.Text

/-!
# Encoded identifiers are read back

An encoder is free in what it writes, and all that the reader shares with it is the list of strings.
The table of the reader is the encoder's memory, `Encoder.table`, before and after every identifier,
and this is the invariant: `Encoder.Settles.reads` is the version word, `Encoder.Spells.reads` the
word and the string behind it, and `Encoder.Takes.reads` an identifier.

`Encoder.Run.reads_traced` follows by induction on the sequence.  It speaks of either encoding, of
anything in front of the sequence and behind it, and of the table after every identifier.

## What is not read back

An encoder may be asked for what the encodings have no room for.  The length of a binary string has
a limit, and at version two the word of a string can be the one that stands for no value.  The
theorem leaves out these two (`Step.Fits`), and `Encoder.Run.not_reads_traced` shows what a reader
makes of them.
-/

namespace GameBox

namespace Identifier

variable {encoding : Encoding} {encoder last : Encoder} {step : Step} {steps : List Step}
variable {version word : UInt32} {meaning : Meaning} {front tail : List UInt8}
variable {strings : List String}

/-! ## Words -/

/-- At version two every word of a string, whatever its low bits are, is followed by the string. -/
theorem form_inline_of_two (tag : StringTag) {low : Nat} (bound : low < 0x40000000)
    (assigned : tag.word low ≠ Collection.unassigned) : form 2 (tag.word low) = .inline := by
  rw [form, if_neg assigned, if_neg (tag.and_stringMask_word_ne_zero bound), if_pos (.inl rfl)]

/-! ## One identifier -/

namespace Encoder

/-- An identifier is never written at a version below two. -/
theorem Settles.le (h : encoder.Settles encoding front version) : 2 ≤ version := by
  cases h with
  | settled h => exact UInt32.le_trans (by decide) h
  | written version h hversion => exact hversion

/-- The reader asks for a version exactly if the encoder has written one. -/
theorem Settles.reads (h : encoder.Settles encoding front version) :
    Decoder.Reads encoding settleVersion encoder.table front ()
      (Encoder.table ⟨version, encoder.strings⟩) := by
  refine .look ?_
  rw [Decoder.bind]
  cases h with
  | settled h =>
    rw [version_table, if_neg (UInt32.not_lt.mpr h)]
    exact .done _ _
  | written version h hversion =>
    rw [version_table, if_pos h]
    refine (Decoder.Reads.writeNat32 encoding version _).finish ?_
    rw [if_neg (UInt32.not_lt.mpr hversion)]
    exact Decoder.Reads.modify _ _

/-- Behind its word, an identifier gives its name, and the reader learns what the encoder has added
to its list. -/
theorem Spells.reads (h : encoder.Spells encoding meaning word tail strings)
    (hversion : 2 ≤ encoder.version)
    (hfits : Step.Fits encoding ⟨meaning, word, tail, ⟨encoder.version, strings⟩⟩) :
    Decoder.Reads encoding (nameOf word) encoder.table tail meaning.name
      (Encoder.table ⟨encoder.version, strings⟩) := by
  refine .look ?_
  rw [Decoder.bind]
  dsimp only [Encoder.table]
  cases h with
  | unassigned => exact .done _ _
  | collection id small =>
    rw [form_collection small]
    exact .done _ _
  | inline text named tag low bound h =>
    have hform : form encoder.version (tag.word low) = .inline := by
      rcases h with htwo | rfl
      · rw [htwo]
        exact form_inline_of_two tag bound hfits.2
      · exact form_inline tag _
    have hlearn : encoder.table.learn text =
        ⟨encoder.version, (encoder.strings ++ [text]).toArray⟩ := by
      rw [Table.learn, if_neg (by simpa using named), Encoder.table, List.push_toArray]
    rw [hform]
    refine (Decoder.Reads.write encoding .string (by decide) hfits.1 _).finish (.change ?_)
    rw [← hlearn]
    exact .done _ _
  | earlier text named tag place bound h occurs assigned =>
    have hsettled : 3 ≤ encoder.version := by
      rw [UInt32.le_iff_toNat_le] at hversion ⊢
      rw [Ne, ← UInt32.toNat_inj] at h
      have htwo : (2 : UInt32).toNat = 2 := rfl
      have hthree : (3 : UInt32).toNat = 3 := rfl
      omega
    have hbounds : 0 < place + 1 ∧ place + 1 < 0x40000000 := ⟨Nat.succ_pos _, bound⟩
    rw [form_earlier hsettled tag hbounds assigned]
    dsimp only
    rw [Table.get?_ofNat _ hbounds, List.getElem?_toArray, Nat.add_sub_cancel, occurs]
    exact .done _ _

/-- **One identifier.**  It is read back, and the reader knows what the encoder remembers. -/
theorem Takes.reads_decoder (h : encoder.Takes encoding step) (hfits : step.Fits encoding) :
    Decoder.Reads encoding decoder encoder.table step.octets ⟨step.meaning.name, step.word⟩
      step.behind.table := by
  cases h with
  | @intro front tail version word meaning strings hfront htail =>
    have hname : Decoder.Reads encoding ((nameOf word).bind fun name => .done ⟨name, word⟩) _ tail
        (⟨meaning.name, word⟩ : Identifier) _ := (htail.reads hfront.le hfits).finish (.done _ _)
    exact hfront.reads.bind ((Decoder.Reads.writeNat32 encoding word _).bind hname)

theorem Takes.reads (h : encoder.Takes encoding step) (hfits : step.Fits encoding) :
    Decoder.Reads encoding traced encoder.table step.octets
      (step.meaning.name, step.behind.table) step.behind.table :=
  (h.reads_decoder hfits).finish (.look (.done _ _))

/-! ## Sequences -/

/-- **Sequences of identifiers.**  However a sequence was encoded, the names are read back, and
after every identifier the reader has learned what the encoder has written. -/
theorem Run.reads_traced (h : Run encoding encoder steps last)
    (hfits : ∀ step ∈ steps, step.Fits encoding) :
    Decoder.Reads encoding (traced.times steps.length) encoder.table (steps.flatMap Step.octets)
      (steps.map fun step => (step.meaning.name, step.behind.table)) last.table := by
  suffices hafter : ∀ earlier, Decoder.Reads encoding (traced.timesAfter steps.length earlier)
      encoder.table (steps.flatMap Step.octets)
      (earlier.reverse ++ steps.map fun step => (step.meaning.name, step.behind.table))
      last.table from hafter []
  induction h with
  | nil encoder =>
    intro earlier
    rw [List.map_nil, List.append_nil]
    exact .done _ _
  | @cons encoder last step steps hstep hsteps ih =>
    intro earlier
    rw [List.forall_mem_cons] at hfits
    have hrest := ih hfits.2 ((step.meaning.name, step.behind.table) :: earlier)
    rw [List.reverse_cons, List.append_assoc] at hrest
    exact (hstep.reads hfits.1).bind hrest

/-- A string is written twice at version two.  Then the version is three, and the second of the two
is referred to. -/
theorem Run.reads_traced_twice :
    Decoder.Reads .binary (traced.times 5) .empty
      [2, 0, 0, 0, 1, 0, 0, 0xC0, 3, 0, 0, 0, 0x4F, 0x6E, 0x65,
       2, 0, 0, 0, 9, 0, 0, 0x40, 3, 0, 0, 0, 0x4F, 0x6E, 0x65,
       3, 0, 0, 0, 26, 0, 0, 0,
       2, 0, 0, 0x80,
       0xFF, 0xFF, 0xFF, 0xFF]
      [("One", ⟨2, #["One"]⟩), ("One", ⟨2, #["One", "One"]⟩), ("Stadium", ⟨3, #["One", "One"]⟩),
       ("One", ⟨3, #["One", "One"]⟩), ("", ⟨3, #["One", "One"]⟩)]
      ⟨3, #["One", "One"]⟩ := by
  have hrun : Run .binary {}
      [⟨.string "One" (by decide), 0xC0000001,
          [2, 0, 0, 0, 1, 0, 0, 0xC0, 3, 0, 0, 0, 0x4F, 0x6E, 0x65], ⟨2, ["One"]⟩⟩,
        ⟨.string "One" (by decide), 0x40000009,
          [2, 0, 0, 0, 9, 0, 0, 0x40, 3, 0, 0, 0, 0x4F, 0x6E, 0x65], ⟨2, ["One", "One"]⟩⟩,
        ⟨.collection 26 (by decide), 26, [3, 0, 0, 0, 26, 0, 0, 0], ⟨3, ["One", "One"]⟩⟩,
        ⟨.string "One" (by decide), 0x80000002, [2, 0, 0, 0x80], ⟨3, ["One", "One"]⟩⟩,
        ⟨.unassigned, 0xFFFFFFFF, [0xFF, 0xFF, 0xFF, 0xFF], ⟨3, ["One", "One"]⟩⟩]
      ⟨3, ["One", "One"]⟩ := by
    refine .cons (.intro (.written 2 (by decide) (by decide))
      (.inline "One" (by decide) .both 1 (by decide) (.inl rfl))) ?_
    refine .cons (.intro (.written 2 (by decide) (by decide))
      (.inline "One" (by decide) .low 9 (by decide) (.inl rfl))) ?_
    refine .cons (.intro (.written 3 (by decide) (by decide)) (.collection 26 (by decide))) ?_
    refine .cons (.intro (.settled (by decide)) (.earlier "One" (by decide) .high 1 (by decide)
      (by decide) rfl (by decide))) ?_
    exact .cons (.intro (.settled (by decide)) .unassigned) (.nil _)
  have hone : Field.Fits .binary .string "One" := by decide
  refine hrun.reads_traced ?_
  simp only [List.forall_mem_cons, List.not_mem_nil, false_imp_iff, implies_true, and_true]
  exact ⟨⟨hone, by decide⟩, ⟨hone, by decide⟩, trivial, ⟨hone, by decide⟩, trivial⟩

/-! ### Words and strings that are not read back -/

/-- A string of the binary encoding that is too long is refused behind its word. -/
theorem refuses_nameOf {table : Table} (hform : form table.version word = .inline) {text : String}
    (hlimit : Field.stringLimit ≤ (Utf8.encode text).length)
    (hlength : (Utf8.encode text).length < 256 ^ 4) :
    Decoder.Refuses .binary (nameOf word) table (Field.string.write .binary text)
      (.read (.limitExceeded .stringLength (Utf8.encode text).length Field.stringLimit)) := by
  refine .look ?_
  rw [Decoder.bind, hform]
  exact (Decoder.Refuses.read (Field.refuses_string hlimit hlength) table).bind _

/-- And so the identifier is refused. -/
theorem Settles.refuses {text : String} (h : encoder.Settles .binary front version)
    (hform : form version word = .inline)
    (hlimit : Field.stringLimit ≤ (Utf8.encode text).length)
    (hlength : (Utf8.encode text).length < 256 ^ 4) :
    Decoder.Refuses .binary decoder encoder.table
      (front ++ (Field.nat32.write .binary word ++ Field.string.write .binary text))
      (.read (.limitExceeded .stringLength (Utf8.encode text).length Field.stringLimit)) :=
  h.reads.refuses ((Decoder.Reads.writeNat32 .binary word _).refuses
    ((refuses_nameOf hform hlimit hlength).bind _))

/-- A text that is one octet too long for the binary encoding. -/
def longText : String := String.ofList (List.replicate Field.stringLimit 'a')

theorem length_longText : (Utf8.encode longText).length = Field.stringLimit := by
  rw [longText, Utf8.encode_ofList, List.length_map, List.length_replicate]
  intro c hc
  rw [List.eq_of_mem_replicate hc]
  decide

theorem longText_ne_empty : longText ≠ "" := by
  intro h
  have hlength := length_longText
  rw [h] at hlength
  exact absurd hlength (by decide)

/-- **The two conditions are needed.**  A binary string that is too long is refused, and a word with
all its bits set stands for no value, also in front of a string. -/
theorem Run.not_reads_traced :
    (Run .binary {} [⟨.string longText longText_ne_empty, StringTag.low.word 0,
        octets 4 3 ++ (octets 4 (StringTag.low.word 0).toNat ++ Field.string.writeBinary longText),
        ⟨3, [longText]⟩⟩] ⟨3, [longText]⟩ ∧
      (decoder.run .binary (octets 4 3 ++ (octets 4 (StringTag.low.word 0).toNat ++
          Field.string.writeBinary longText)).toArray 0 .empty).result =
        .error (.read (.limitExceeded .stringLength 0xFFFF 0xFFFF))) ∧
    Run .binary {} [⟨.string "a" (by decide), 0xFFFFFFFF,
        [2, 0, 0, 0, 0xFF, 0xFF, 0xFF, 0xFF, 1, 0, 0, 0, 97], ⟨2, ["a"]⟩⟩] ⟨2, ["a"]⟩ ∧
      (decoder.run .binary #[2, 0, 0, 0, 0xFF, 0xFF, 0xFF, 0xFF, 1, 0, 0, 0, 97] 0 .empty).result =
        .ok ⟨"", 0xFFFFFFFF⟩ := by
  refine ⟨⟨?_, ?_⟩, ?_, ?_⟩
  · exact .cons (.intro (.written 3 (by decide) (by decide))
      (.inline longText longText_ne_empty .low 0 (by decide) (.inr rfl))) (.nil _)
  · have hsettles : Settles .binary {} (Field.nat32.write .binary 3) 3 :=
      .written 3 (by decide) (by decide)
    have hrefuses := hsettles.refuses (form_inline .low 3)
      (Nat.le_of_eq length_longText.symm) (by rw [length_longText]; decide) [] []
    rw [length_longText, List.nil_append, List.append_nil] at hrefuses
    exact hrefuses
  · exact .cons (.intro (.written 2 (by decide) (by decide))
      (.inline "a" (by decide) .both 0x3FFFFFFF (by decide) (.inl rfl))) (.nil _)
  · rfl

end Encoder
end Identifier
end GameBox
