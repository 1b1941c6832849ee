import GameBox.Chunk.Contents
import GameBox.Proofs.Chunk.Written

/-!
# Chunks that were written are read back

The contents of a chunk say what is written and what it stands for, version by version, and the
layout of the kind says what is read.  The two were written down apart from each other.  They agree:
for every version, the groups of the contents are taken by the layers of the layout, one after the
other, and the record that results is the one that the contents stand for.

Each kind has one proof, and it follows the layout.  A layer is taken by `Layout.Takes.always` or
`Layout.Takes.cons`, which asks that the contents and the layer have the same condition on the
version.  A slot is taken by the lemma of its name.  What is left is an equation between two
records, of which the first was built by one update behind the other; it is proved field by field.

The values of an enumeration are written by a table of numbers, and read by a function of its own.
That the function follows the table is a fact for each of the four (`NumberTable.IsReadBy`).

`ChunkData.decode_write` is the statement about all kinds.
-/

namespace GameBox

open Identifier Layout Versions

/-! ## Conditions on versions -/

namespace Versions

theorem contains_since_nat8 (first own : UInt8) :
    (since first.toNat).contains own.toNat = decide (first ≤ own) :=
  decide_eq_decide.2 UInt8.le_iff_toNat_le.symm

theorem contains_before_nat8 (bound own : UInt8) :
    (before bound.toNat).contains own.toNat = decide (own < bound) :=
  decide_eq_decide.2 UInt8.lt_iff_toNat_lt.symm

theorem contains_only_nat8 (version own : UInt8) :
    (only version.toNat).contains own.toNat = decide (own = version) :=
  decide_eq_decide.2 UInt8.toNat_inj

theorem contains_between_nat8 (first last own : UInt8) :
    (between first.toNat last.toNat).contains own.toNat = decide (first ≤ own ∧ own ≤ last) := by
  have hfirst := contains_since_nat8 first own
  have hlast : decide (own.toNat ≤ last.toNat) = decide (own ≤ last) :=
    decide_eq_decide.2 UInt8.le_iff_toNat_le.symm
  rw [Bool.decide_and, ← hfirst, ← hlast]
  rfl

theorem contains_since_nat32 (first own : UInt32) :
    (since first.toNat).contains own.toNat = decide (first ≤ own) :=
  decide_eq_decide.2 UInt32.le_iff_toNat_le.symm

theorem contains_only_nat32 (version own : UInt32) :
    (only version.toNat).contains own.toNat = decide (own = version) :=
  decide_eq_decide.2 UInt32.toNat_inj

end Versions

/-! ## Enumerations -/

namespace NumberTable

variable {Word Value : Type} {table : NumberTable Word Value} {read : Word → Value}

/-- A function gives what a table says of every number. -/
structure IsReadBy (table : NumberTable Word Value) (read : Word → Value) : Prop where
  named : ∀ entry ∈ table.named, read entry.1 = entry.2
  unnamed : ∀ number, number ∉ table.named.map Prod.fst → read number = table.unnamed number

theorem IsReadBy.read_number (h : table.IsReadBy read) (written : Numbered table) :
    read written.number = written.value := by
  rcases written.stands with hnamed | ⟨hunnamed, hvalue⟩
  · exact h.named _ hnamed
  · rw [hvalue]
    exact h.unnamed _ hunnamed

end NumberTable

theorem TrackType.numbers_isReadBy : numbers.IsReadBy ofRaw where
  named := by decide
  unnamed number h := by
    rw [ofRaw]
    split
    case h_8 => rfl
    all_goals
      rename_i hraw
      cases UInt32.ofNat_toNat.symm.trans (congrArg UInt32.ofNat hraw)
      exact absurd (by decide) h

theorem MapKind.numbers_isReadBy : numbers.IsReadBy ofRaw where
  named := by decide
  unnamed number h := by
    rw [ofRaw]
    split
    case h_14 => rfl
    all_goals
      rename_i hraw
      cases UInt8.ofNat_toNat.symm.trans (congrArg UInt8.ofNat hraw)
      exact absurd (by decide) h

theorem RaceMode.numbers_isReadBy : numbers.IsReadBy ofRaw where
  named := by decide
  unnamed number h := by
    rw [ofRaw]
    split
    case h_4 => rfl
    all_goals
      rename_i hraw
      cases UInt32.ofNat_toNat.symm.trans (congrArg UInt32.ofNat hraw)
      exact absurd (by decide) h

theorem ProductionState.numbers_isReadBy : numbers.IsReadBy ofRaw where
  named := by decide
  unnamed number h := by
    rw [ofRaw]
    split
    case h_5 => rfl
    all_goals
      rename_i hraw
      cases UInt8.ofNat_toNat.symm.trans (congrArg UInt8.ofNat hraw)
      exact absurd (by decide) h

/-! ## The kinds -/

attribute [ext] MapDescription MapSummary Regatta ReplaySummary PlayerProfile CatalogEntry
  SkinDescription SkinFolders CollectionDescription FolderLayout

theorem MapDescription.readsGroups (c : Contents) :
    layout.decoder.ReadsGroups {} c.idents c.groups c.record := by
  refine readsGroups_decoder c.version.toNat (.field .nil) rfl
    (.cons (contains_before_nat8 3 _) (.name <| .name <| .name <| .field .nil) <|
      .always rfl (.unusedFlag .nil) <|
      .cons (contains_since_nat8 1 _) (.quad .nil) <|
      .cons (contains_only_nat8 2 _) (.unused .nil) <|
      .cons (contains_since_nat8 4 _) (.field .nil) <|
      .cons (contains_since_nat8 5 _) (.field .nil) <|
      .cons (contains_only_nat8 6 _) (.field .nil) <|
      .cons (contains_since_nat8 7 _) (.field .nil) <|
      .cons (contains_since_nat8 9 _) (.unused .nil) <|
      .cons (contains_since_nat8 10 _) (.field .nil) <|
      .cons (contains_since_nat8 11 _) (.field .nil) <|
      .cons (contains_since_nat8 12 _) (.unused .nil) <|
      .cons (contains_since_nat8 13 _) (.field <| .field .nil) .nil) ?_
  ext1
  all_goals
    simp [Contents.record, apply_ite version, apply_ite uid, apply_ite environment,
      apply_ite author, apply_ite name, apply_ite times, apply_ite price, apply_ite lapRace,
      apply_ite isVirtual, apply_ite trackType, apply_ite authorScore, apply_ite editorMode,
      apply_ite checkpoints, apply_ite laps, TrackType.numbers_isReadBy.read_number]

theorem MapSummary.readsGroups (c : Contents) :
    layout.decoder.ReadsGroups {} c.idents c.groups c.record := by
  refine readsGroups_decoder c.version.toNat (.field .nil) rfl
    (.always rfl (.name <| .name <| .name <| .field <| .field .nil) <|
      .cons (contains_since_nat8 1 _) (.field <| .field .nil) <|
      .cons (contains_since_nat8 2 _) (.triple .nil) <|
      .cons (contains_since_nat8 3 _) (.pair .nil) <|
      .cons (contains_since_nat8 4 _) (.pair .nil) <|
      .cons (contains_since_nat8 5 _) (.field .nil) <|
      .cons (contains_since_nat8 6 _) (.field <| .field .nil) <|
      .cons (contains_between_nat8 6 8 _) (.field .nil) <|
      .cons (contains_since_nat8 8 _) (.field .nil) <|
      .cons (contains_since_nat8 11 _) (.name .nil) .nil) ?_
  ext1
  case titleId =>
    by_cases htitle : 11 ≤ c.version
    · -- A version with a title has a decoration, whose identifiers stand in front of the title.
      have hdecoration : 2 ≤ c.version := UInt8.le_trans (by decide) htitle
      simp [Contents.record, htitle, hdecoration]
    · simp [Contents.record, htitle, apply_ite titleId]
  all_goals
    simp [Contents.record, Contents.decorationNames, apply_ite version, apply_ite uid,
      apply_ite environment, apply_ite author, apply_ite name, apply_ite kind, apply_ite locked,
      apply_ite password, apply_ite decoration, apply_ite origin, apply_ite target,
      apply_ite packMask, apply_ite mapType, apply_ite mapStyle, apply_ite lightmapCacheUid,
      apply_ite lightmapVersion, MapKind.numbers_isReadBy.read_number]

theorem Regatta.readsGroups (c : Contents) :
    layout.decoder.ReadsGroups {} .least c.groups c.record := by
  refine readsGroups_decoder c.version.toNat (.field .nil) rfl
    (.always rfl (.field <| .field .nil) <|
      .cons (contains_since_nat8 1 _) (.field <| .field .nil) <|
      .cons (contains_since_nat8 2 _) (.field .nil) .nil) ?_
  ext1
  all_goals
    simp [Contents.record, apply_ite version, apply_ite raceMode, apply_ite laps,
      apply_ite windDirection, apply_ite windSpeed, apply_ite buoys,
      RaceMode.numbers_isReadBy.read_number]

theorem ReplaySummary.readsGroups (c : Contents) :
    layout.decoder.ReadsGroups {} c.idents c.groups c.record := by
  refine readsGroups_decoder c.version.toNat (.field .nil) rfl
    (.cons (contains_since_nat32 2 _) (.name <| .name <| .name <| .field <| .field .nil) <|
      .cons (contains_since_nat32 6 _) (.field .nil) <|
      .cons (contains_since_nat32 8 _) (.unused <| .name .nil) .nil) ?_
  ext1
  case titleId =>
    by_cases htitle : 8 ≤ c.version
    · have huid : 2 ≤ c.version := UInt32.le_trans (by decide) htitle
      simp [Contents.record, htitle, huid]
    · simp [Contents.record, htitle, apply_ite titleId]
  all_goals
    simp [Contents.record, apply_ite version, apply_ite mapUid, apply_ite environment,
      apply_ite mapAuthor, apply_ite bestTime, apply_ite nickname, apply_ite login]

theorem PlayerProfile.readsGroups (c : Contents) :
    layout.decoder.ReadsGroups {} .least c.groups c.record := by
  refine readsGroups_decoder c.version.toNat (.field .nil) rfl
    (.always rfl (.field .nil) <| .cons (contains_since_nat32 1 _) (.field .nil) .nil) ?_
  ext1
  all_goals
    simp [Contents.record, apply_ite version, apply_ite login, apply_ite supportKey]

/-- The version stands behind the identifiers of the entry. -/
theorem CatalogEntry.readsGroups (c : Contents) :
    layout.decoder.ReadsGroups {} c.idents c.groups c.record := by
  refine readsGroups_decoder c.version.toNat (.name <| .name <| .name <| .field .nil) rfl
    (.always rfl (.field .nil) <|
      .cons (contains_only_nat32 5 _) (.unused .nil) <|
      .cons (contains_since_nat32 4 _) (.field .nil) <|
      .cons (contains_since_nat32 3 _) (.field .nil) <|
      .cons (contains_since_nat32 7 _) (.field .nil) <|
      .cons (contains_since_nat32 8 _) (.field .nil) .nil) ?_
  ext1
  all_goals
    simp [Contents.record, apply_ite uid, apply_ite collection, apply_ite author,
      apply_ite version, apply_ite pageName, apply_ite productFlags, apply_ite catalogPosition,
      apply_ite name, apply_ite state, ProductionState.numbers_isReadBy.read_number]

theorem SkinDescription.readsGroups (c : Contents) :
    layout.decoder.ReadsGroups {} .least c.groups c.record := by
  refine readsGroups_decoder c.version.toNat (.field .nil) rfl
    (.always rfl (.field .nil) <| .cons (contains_since_nat32 1 _) (.field .nil) .nil) ?_
  ext1
  all_goals
    simp [Contents.record, apply_ite version, apply_ite text, apply_ite packDesc]

theorem SkinFolders.readsGroups (c : Contents) :
    layout.decoder.ReadsGroups {} .least c.groups c.record := by
  refine readsGroups_decoder c.version.toNat (.field .nil) rfl
    (.always rfl (.field .nil) <|
      .cons (contains_since_nat8 1 _) (.field .nil) <|
      .cons (contains_since_nat8 2 _) (.field .nil) .nil) ?_
  ext1
  all_goals
    simp [Contents.record, apply_ite version, apply_ite directory, apply_ite texture,
      apply_ite soundDirectory]

theorem CollectionDescription.readsGroups (c : Contents) :
    layout.decoder.ReadsGroups {} c.idents c.groups c.record := by
  refine readsGroups_decoder c.version.toNat (.field .nil) rfl
    (.always rfl (.name <| .field .nil) <|
      .cons (contains_since_nat8 1 _) (.field <| .field .nil) <|
      .cons (contains_since_nat8 2 _) (.field .nil) <|
      .cons (contains_since_nat8 3 _) (.name .nil) <|
      .cons (contains_since_nat8 4 _) (.triple .nil) <|
      .cons (contains_since_nat8 5 _) (.field .nil) <|
      .cons (contains_since_nat8 6 _) (.pair <| .pair .nil) <|
      .cons (contains_since_nat8 7 _) (.field .nil) <|
      .cons (contains_since_nat8 8 _) (.pair .nil) .nil) ?_
  ext1
  case vehicle =>
    by_cases hvehicle : 4 ≤ c.version
    · have hzone : 3 ≤ c.version := UInt8.le_trans (by decide) hvehicle
      simp [Contents.record, Contents.vehicleNames, hvehicle, hzone, apply_ite vehicle]
    · simp [Contents.record, hvehicle, apply_ite vehicle]
  all_goals
    simp [Contents.record, apply_ite version, apply_ite collection, apply_ite needUnlock,
      apply_ite iconEnv, apply_ite iconCollection, apply_ite sortIndex, apply_ite defaultZone,
      apply_ite mapFid, apply_ite mapCoordElem, apply_ite mapCoordIcon, apply_ite loadScreen,
      apply_ite mapCoordDesc]

theorem FolderLayout.readsGroups (c : Contents) :
    layout.decoder.ReadsGroups {} .least c.groups c.record := by
  refine readsGroups_decoder c.version.toNat (.field .nil) rfl
    (.always rfl (.field <| .field <| .field .nil) <|
      .cons (contains_since_nat8 1 _) (.field .nil) <|
      .cons (contains_since_nat8 3 _) (.field .nil) .nil) ?_
  ext1
  all_goals
    simp [Contents.record, apply_ite version, apply_ite blockInfo, apply_ite item,
      apply_ite decoration, apply_ite menuIcons, apply_ite displayName]

/-! ## All kinds -/

namespace ChunkData

theorem decode_of_readsGroups {kind : ChunkKind} {idents : SettledVersion}
    {groups : List (List Token)} {record : kind.Record}
    (h : kind.decoder.ReadsGroups kind.blank idents groups record) :
    decode kind .binary (Token.writeAll idents [] groups.flatten).toArray .empty =
      ⟨⟨kind, record⟩, none, (Token.writeAll idents [] groups.flatten).toArray.size,
        .behind idents (Token.idents groups.flatten)⟩ := by
  have hrun := h [] []
  rw [List.nil_append, List.append_nil, List.length_nil, Nat.zero_add] at hrun
  rw [decode, hrun, List.size_toArray]
  rfl

/-- Decoding what was written gives the chunk and the identifiers behind it. -/
theorem decode_write_eq (contents : ChunkContents) :
    decode contents.data.kind .binary contents.write.toArray .empty =
      ⟨contents.data, none, contents.write.toArray.size,
        .behind contents.idents (Token.idents contents.groups.flatten)⟩ := by
  cases contents with
  | tmDesc c => exact decode_of_readsGroups (MapDescription.readsGroups c)
  | common c => exact decode_of_readsGroups (MapSummary.readsGroups c)
  | vskDesc c => exact decode_of_readsGroups (Regatta.readsGroups c)
  | replayVersion c => exact decode_of_readsGroups (ReplaySummary.readsGroups c)
  | collectorDesc c => exact decode_of_readsGroups (CatalogEntry.readsGroups c)
  | skin c => exact decode_of_readsGroups (SkinDescription.readsGroups c)
  | gameSkin c => exact decode_of_readsGroups (SkinFolders.readsGroups c)
  | collectionDesc c => exact decode_of_readsGroups (CollectionDescription.readsGroups c)
  | folders c => exact decode_of_readsGroups (FolderLayout.readsGroups c)
  | profile c => exact decode_of_readsGroups (PlayerProfile.readsGroups c)

/-- **Chunks are read back.**  The octets that the contents of a chunk are written as are decoded
without an error and to their end, and the record has the fields of the version, with the values
that were written, and no others. -/
theorem decode_write (contents : ChunkContents) :
    (decode contents.data.kind .binary contents.write.toArray .empty).chunk = contents.data ∧
      (decode contents.data.kind .binary contents.write.toArray .empty).error = none ∧
      (decode contents.data.kind .binary contents.write.toArray .empty).next =
        contents.write.toArray.size := by
  rw [decode_write_eq]
  exact ⟨rfl, rfl, rfl⟩

/-- An item by its string, a collection by its number, and the string again as the author. -/
example :
    (ChunkContents.collectorDesc
      { idents := .least
        uid := .inline .low ⟨"Hut", (by decide : 3 < 0xFFFF)⟩
        collection := .collection 26 (by decide)
        author := .earlier .high 1 (by decide) (by decide)
        version := 1
        pageName := ⟨"", (by decide : 0 < 0xFFFF)⟩
        unusedWord := 0
        productFlags := 0
        catalogPosition := 0
        name := ⟨"", (by decide : 0 < 0xFFFF)⟩
        state := ⟨0, .aborted, .inl (by decide)⟩ }).write =
      [3, 0, 0, 0, 0, 0, 0, 0x40, 3, 0, 0, 0, 0x48, 0x75, 0x74, 26, 0, 0, 0, 1, 0, 0, 0x80,
        1, 0, 0, 0, 0, 0, 0, 0] :=
  rfl

end ChunkData
end GameBox
