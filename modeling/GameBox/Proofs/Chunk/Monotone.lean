import GameBox.Proofs.Chunk.Growth

/-!
# Decoding is monotone in the octets

More octets never make a chunk say something else; they only make it say more.  The main result is
`ChunkData.decode_append`, which compares decoding a buffer with decoding a longer one that begins
with it.

## Where this could fail

A decoder could store a value and then fail to read the next one that belongs to it, or store the
same part of a record twice, or ask whether anything is left and read something else if not.  Each
of these would be an error in one decoder, so all of them are gone through.

Sixteen kinds have a layout, and for these there is nothing to do but to look at the list of slots:
`writtenOnce` says of each layout that no two of its slots hold the same part of the record.  The
other decoders are gone through read by read.

## What remains to be said

`ChunkKind.accrues_decoder` collects the cases.  From it the comparison follows for any two
buffers, by `Decoder.Accrues.run_append`: the runs are the same, or the shorter buffer cut the first
one off.  A run that failed for another reason, or that left an octet, was not cut off.
-/

namespace GameBox

open Decoder

/-! ## Layouts that hold every part once -/

theorem MapDescription.writtenOnce : ∀ part ∈ parts, part.WrittenOnce layout.slots := by
  simp [parts, layout, Layout.slots, Part.WrittenOnce]

theorem MapSummary.writtenOnce : ∀ part ∈ parts, part.WrittenOnce layout.slots := by
  simp [parts, layout, Layout.slots, Part.WrittenOnce]

theorem VersionOnly.writtenOnce : ∀ part ∈ parts, part.WrittenOnce layout.slots := by
  simp [parts, layout, Layout.plain, Layout.slots, Part.WrittenOnce]

theorem Author.writtenOnce : ∀ part ∈ parts, part.WrittenOnce layout.slots := by
  simp [parts, layout, Layout.plain, Layout.slots, Part.WrittenOnce]

theorem Regatta.writtenOnce : ∀ part ∈ parts, part.WrittenOnce layout.slots := by
  simp [parts, layout, Layout.slots, Part.WrittenOnce]

theorem ReplaySummary.writtenOnce : ∀ part ∈ parts, part.WrittenOnce layout.slots := by
  simp [parts, layout, Layout.slots, Part.WrittenOnce]

theorem CatalogEntry.writtenOnce : ∀ part ∈ parts, part.WrittenOnce layout.slots := by
  simp [parts, layout, Layout.slots, Part.WrittenOnce]

theorem ModificationTime.writtenOnce : ∀ part ∈ parts, part.WrittenOnce layout.slots := by
  simp [parts, layout, Layout.plain, Layout.slots, Part.WrittenOnce]

theorem SkinDescription.writtenOnce : ∀ part ∈ parts, part.WrittenOnce layout.slots := by
  simp [parts, layout, Layout.slots, Part.WrittenOnce]

theorem ItemType.writtenOnce : ∀ part ∈ parts, part.WrittenOnce layout.slots := by
  simp [parts, layout, Layout.plain, Layout.slots, Part.WrittenOnce]

theorem SkinFolders.writtenOnce : ∀ part ∈ parts, part.WrittenOnce layout.slots := by
  simp [parts, layout, Layout.slots, Part.WrittenOnce]

theorem LegacyCollection.writtenOnce : ∀ part ∈ parts, part.WrittenOnce layout.slots := by
  simp [parts, layout, Layout.plain, Layout.slots, Part.WrittenOnce]

theorem CollectionDescription.writtenOnce : ∀ part ∈ parts, part.WrittenOnce layout.slots := by
  simp [parts, layout, Layout.slots, Part.WrittenOnce]

theorem FolderLayout.writtenOnce : ∀ part ∈ parts, part.WrittenOnce layout.slots := by
  simp [parts, layout, Layout.slots, Part.WrittenOnce]

theorem PlayerProfile.writtenOnce : ∀ part ∈ parts, part.WrittenOnce layout.slots := by
  simp [parts, layout, Layout.slots, Part.WrittenOnce]

/-! ## Decoders of their own -/

theorem Community.accrues_decoder (idents : Identifier.Table) :
    decoder.Accrues (Draft.Below (Part.PrecedesAll {} parts)) ⟨idents, {}⟩ := by
  revert idents
  refine sparesRecord_read .string fun xml => ?_
  exact accrues_store (by simp [parts])

theorem Thumbnail.accrues_decoder (idents : Identifier.Table) :
    decoder.Accrues (Draft.Below (Part.PrecedesAll {} parts)) ⟨idents, {}⟩ := by
  revert idents
  refine sparesRecord_read .nat32 fun version => ?_
  refine accrues_store_bind (by simp [parts]) fun idents => ?_
  split
  · trivial
  · revert idents
    refine sparesRecord_read .nat32 fun size => ?_
    refine accrues_store_bind (by simp [parts]) ?_
    refine sparesRecord_tag pictureOpen fun _ => ?_
    refine sparesRecord_octets size.toNat fun data => ?_
    refine accrues_store_bind (by simp [parts]) ?_
    refine sparesRecord_tag pictureClose fun _ => ?_
    refine sparesRecord_tag commentsOpen fun _ => ?_
    refine sparesRecord_read .string fun comments => ?_
    refine accrues_store_bind (by simp [parts]) ?_
    exact fun idents => (sparesRecord_tag commentsClose).accrues idents

theorem Icon.accrues_decoder (idents : Identifier.Table) :
    decoder.Accrues (Draft.Below (Part.PrecedesAll {} parts)) ⟨idents, {}⟩ := by
  revert idents
  refine sparesRecord_read .nat16 fun width => ?_
  refine sparesRecord_read .nat16 fun height idents => ?_
  split
  · revert idents
    refine accrues_store_bind (by simp [parts]) ?_
    refine sparesRecord_read .nat16 fun version => ?_
    refine sparesRecord_read .nat32 fun size => ?_
    refine sparesRecord_octets size.toNat fun data => ?_
    exact accrues_store (by simp [parts])
  · revert idents
    refine accrues_store_bind (by simp [parts]) ?_
    refine sparesRecord_octets _ fun data => ?_
    exact accrues_store (by simp [parts])

/-- The decoration is optional: it is read unless nothing is left. -/
theorem DecorationMood.accrues_decoder (idents : Identifier.Table) :
    decoder.Accrues (Draft.Below (Part.PrecedesAll {} parts)) ⟨idents, {}⟩ := by
  revert idents
  refine sparesRecord_ident (Part.precedesAll_refl _ _) fun mood => ?_
  refine accrues_store_bind (by simp [parts]) fun idents => ?_
  refine ⟨⟨(), rfl⟩, ?_⟩
  revert idents
  refine sparesRecord_read .string fun decoration => ?_
  exact accrues_store (by simp [parts])

/-- All octets that are left are stored, so more of them give a longer list. -/
theorem Undecoded.accrues_decoder (idents : Identifier.Table) :
    decoder.Accrues (Draft.Below (Part.PrecedesAll {} parts)) ⟨idents, {}⟩ := by
  revert idents
  refine sparesRecord_read .nat32 fun version => ?_
  refine accrues_store_bind (by simp [parts]) fun idents => ?_
  refine ⟨fun data draft => { draft with record := { draft.record with data } }, (), rfl, ?_⟩
  simp [parts, Draft.Below]

/-- Each round of the loop appends an icon. -/
theorem MenuIcons.accrues_decoder (idents : Identifier.Table) :
    decoder.Accrues (Draft.Below (Part.PrecedesAll {} parts)) ⟨idents, {}⟩ := by
  revert idents
  refine sparesRecord_read .nat8 fun version => ?_
  refine accrues_store_bind (by simp [parts]) ?_
  refine sparesRecord_read .nat32 fun count idents => ?_
  split
  · trivial
  · refine accrues_repeated (fun f r hf => ?_) _ _ idents
    show ∀ idents, ((Decoder.ident.bind _).bind f).Accrues _ ⟨idents, r⟩
    rw [bind_assoc]
    refine sparesRecord_ident (Part.precedesAll_refl _ _) fun name => ?_
    refine sparesRecord_read .string fun path => ?_
    refine fun idents => ⟨?_, hf _ idents⟩
    simp [parts, Draft.Below]

/-- Each round of the loop appends a folder. -/
theorem FolderDependencies.accrues_decoder (idents : Identifier.Table) :
    decoder.Accrues (Draft.Below (Part.PrecedesAll {} parts)) ⟨idents, {}⟩ := by
  revert idents
  refine sparesRecord_read .nat32 fun count idents => ?_
  split
  · trivial
  · refine accrues_repeated (fun f r hf => ?_) _ _ idents
    refine sparesRecord_read .string fun folder => ?_
    refine fun idents => ⟨?_, hf _ idents⟩
    simp [parts, Draft.Below]

/-! ## All kinds -/

/-- Nothing that the decoder of a kind has stored is taken back. -/
theorem ChunkKind.accrues_decoder (kind : ChunkKind) (idents : Identifier.Table) :
    kind.decoder.Accrues (Draft.Below kind.Precedes) ⟨idents, kind.blank⟩ := by
  cases kind with
  | tmDesc => exact Layout.accrues_decoder MapDescription.writtenOnce idents
  | common => exact Layout.accrues_decoder MapSummary.writtenOnce idents
  | version => exact Layout.accrues_decoder VersionOnly.writtenOnce idents
  | community => exact Community.accrues_decoder idents
  | thumbnail => exact Thumbnail.accrues_decoder idents
  | author => exact Layout.accrues_decoder Author.writtenOnce idents
  | vskDesc => exact Layout.accrues_decoder Regatta.writtenOnce idents
  | replayVersion => exact Layout.accrues_decoder ReplaySummary.writtenOnce idents
  | collectorDesc => exact Layout.accrues_decoder CatalogEntry.writtenOnce idents
  | icon => exact Icon.accrues_decoder idents
  | time => exact Layout.accrues_decoder ModificationTime.writtenOnce idents
  | skin => exact Layout.accrues_decoder SkinDescription.writtenOnce idents
  | itemType => exact Layout.accrues_decoder ItemType.writtenOnce idents
  | gameSkin => exact Layout.accrues_decoder SkinFolders.writtenOnce idents
  | mood => exact DecorationMood.accrues_decoder idents
  | unknown => exact Undecoded.accrues_decoder idents
  | oldDesc => exact Layout.accrues_decoder LegacyCollection.writtenOnce idents
  | collectionDesc => exact Layout.accrues_decoder CollectionDescription.writtenOnce idents
  | folders => exact Layout.accrues_decoder FolderLayout.writtenOnce idents
  | menuIcons => exact MenuIcons.accrues_decoder idents
  | profile => exact Layout.accrues_decoder PlayerProfile.writtenOnce idents
  | folderDep => exact FolderDependencies.accrues_decoder idents

namespace ChunkData

variable (kind : ChunkKind) (encoding : Encoding) (idents : Identifier.Table)

/-- Decoding was cut off by the end of the octets: they ended in a read, or there are none left. -/
def Decoded.IsCutOff (decoded : Decoded) (size : Nat) : Prop :=
  (∃ error, decoded.error = some error ∧ error.kind = .truncated) ∨
    decoded.error = none ∧ size ≤ decoded.next

/-- A longer chunk decodes as the shorter one, or the shorter one was cut off and its record is a
partial version of the record of the longer one. -/
theorem decode_append_or_isCutOff (data more : Octets) :
    decode kind encoding (data ++ more) idents = decode kind encoding data idents ∨
      (decode kind encoding data idents).IsCutOff data.size ∧
        (decode kind encoding data idents).chunk.Precedes
          (decode kind encoding (data ++ more) idents).chunk := by
  rcases (kind.accrues_decoder idents).run_append (fun draft => kind.precedes_refl draft.record)
    (fun _ _ _ => ChunkKind.precedes_trans) encoding data more 0 with hsame | ⟨hcut, hle⟩
  · left
    rw [decode, decode, hsame]
  · refine .inr ⟨?_, .intro hle⟩
    rcases hcut with ⟨error, hresult, hkind⟩ | ⟨value, hresult, hnext⟩
    · refine .inl ⟨error, ?_, hkind⟩
      rw [decode, hresult]
      rfl
    · refine .inr ⟨?_, hnext⟩
      rw [decode, hresult]
      rfl

/-- **Monotonicity.**  The record of a chunk that is cut off is a partial version of the record of
the whole chunk.  If decoding fails for another reason than the end of the octets, or succeeds and
leaves some of them, then the octets behind the cut change nothing at all. -/
theorem decode_append (data more : Octets) :
    (decode kind encoding data idents).chunk.Precedes
        (decode kind encoding (data ++ more) idents).chunk ∧
      (∀ error, (decode kind encoding data idents).error = some error →
        error.kind ≠ .truncated →
          decode kind encoding (data ++ more) idents = decode kind encoding data idents) ∧
      ((decode kind encoding data idents).error = none →
        (decode kind encoding data idents).next < data.size →
          decode kind encoding (data ++ more) idents = decode kind encoding data idents) := by
  rcases decode_append_or_isCutOff kind encoding idents data more with hsame | ⟨hcut, hle⟩
  · rw [hsame]
    exact ⟨precedes_refl _, fun _ _ _ => rfl, fun _ _ => rfl⟩
  · refine ⟨hle, fun error herror hkind => ?_, fun hnone hleft => ?_⟩
    · rcases hcut with ⟨error', herror', hkind'⟩ | ⟨hnone, -⟩
      · rw [herror] at herror'
        cases herror'
        exact absurd hkind' hkind
      · rw [herror] at hnone
        cases hnone
    · rcases hcut with ⟨error', herror', -⟩ | ⟨-, hend⟩
      · rw [hnone] at herror'
        cases herror'
      · omega

/-- A skin as text, with the version, the text and the file of the skin, one in a line.  The second
line of the first buffer holds a carriage return that no line feed follows; the second buffer goes
on behind what its version has. -/
theorem decode_append_skin :
    (∃ error, error.kind ≠ .truncated ∧
      decode .skin .text ("1\r\nMesh\r\nSkin\rA".toUTF8.data ++ "\r\n".toUTF8.data) {} =
        ⟨⟨.skin, ({ version := 1, text := some "Mesh" } : SkinDescription)⟩, some error, 9, {}⟩) ∧
      decode .skin .text ("0\r\nMesh\r\nSkin\r".toUTF8.data ++ "\n".toUTF8.data) {} =
        ⟨⟨.skin, ({ text := some "Mesh" } : SkinDescription)⟩, none, 9, {}⟩ := by
  have hbad : decode .skin .text "1\r\nMesh\r\nSkin\rA".toUTF8.data {} =
      ⟨⟨.skin, ({ version := 1, text := some "Mesh" } : SkinDescription)⟩,
        some (.read (.badLineTerminator 13)), 9, {}⟩ := rfl
  have hleft : decode .skin .text "0\r\nMesh\r\nSkin\r".toUTF8.data {} =
      ⟨⟨.skin, ({ text := some "Mesh" } : SkinDescription)⟩, none, 9, {}⟩ := rfl
  constructor
  · refine ⟨.read (.badLineTerminator 13), by decide, ?_⟩
    rw [← hbad]
    exact (decode_append .skin .text {} _ _).2.1 _ rfl (by decide)
  · rw [← hleft]
    exact (decode_append .skin .text {} _ _).2.2 rfl (by decide)

end ChunkData
end GameBox
