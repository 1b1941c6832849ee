import GameBox.Chunk.Data

/-!
# Partial records

A chunk that is cut off has a record, too: it holds what was read before the end.  Such a record
lies below the one of the whole chunk.  Most parts of a record are read as a whole, so each of them
is either still as in the blank record, or final.  A few are lists whose items are read one after
the other, and there a partial record holds the first items.

* `Part`, `Part.Precedes`: the parts of a record, and how far a part has got.
* `ChunkKind.parts`: the parts of the records of each kind.
* `ChunkKind.Precedes`: the order on records, part by part, with `ChunkKind.precedes_refl`,
  `ChunkKind.precedes_trans` and `ChunkKind.eq_of_precedes`.  The last one says that the lists of
  parts leave nothing out.
-/

namespace GameBox

/-- A part of a record. -/
inductive Part (ρ : Type) : Type 1 where
  /-- What is read as a whole. -/
  | whole {τ : Type} (get : ρ → τ)
  /-- A list whose items are read one after the other. -/
  | items {τ : Type} (get : ρ → List τ)

namespace Part

variable {ρ : Type} {blank r r' r'' : ρ}

/-- The part has got no further in one record than in the other: it is blank or the same, or it is
a list of the first items. -/
def Precedes (blank : ρ) : Part ρ → ρ → ρ → Prop
  | whole get, r, r' => get r = get blank ∨ get r = get r'
  | items get, r, r' => get r <+: get r'

@[simp] theorem precedes_whole {τ : Type} {get : ρ → τ} :
    (whole get).Precedes blank r r' ↔ get r = get blank ∨ get r = get r' := Iff.rfl

@[simp] theorem precedes_items {τ : Type} {get : ρ → List τ} :
    (items get).Precedes blank r r' ↔ get r <+: get r' := Iff.rfl

/-- The part is the same in two records. -/
def Agrees : Part ρ → ρ → ρ → Prop
  | whole get, r, r' => get r = get r'
  | items get, r, r' => get r = get r'

theorem precedes_refl (blank : ρ) (part : Part ρ) (r : ρ) : part.Precedes blank r r := by
  cases part with
  | whole get => exact .inr rfl
  | items get => exact List.prefix_refl _

theorem precedes_trans {part : Part ρ} (h : part.Precedes blank r r')
    (h' : part.Precedes blank r' r'') : part.Precedes blank r r'' := by
  cases part with
  | whole get =>
    rcases h with hblank | hsame
    · exact .inl hblank
    · rcases h' with hblank | hsame'
      · exact .inl (hsame.trans hblank)
      · exact .inr (hsame.trans hsame')
  | items get => exact List.IsPrefix.trans h h'

theorem agrees_of_precedes {part : Part ρ} (h : part.Precedes blank r r')
    (h' : part.Precedes blank r' r) : part.Agrees r r' := by
  cases part with
  | whole get =>
    rcases h with hblank | hsame
    · rcases h' with hblank' | hsame'
      · exact hblank.trans hblank'.symm
      · exact hsame'.symm
    · exact hsame
  | items get => exact List.IsPrefix.eq_of_length_le h (List.IsPrefix.length_le h')

/-- No part has got further in one record than in the other. -/
def PrecedesAll (blank : ρ) (parts : List (Part ρ)) (r r' : ρ) : Prop :=
  ∀ part ∈ parts, part.Precedes blank r r'

theorem precedesAll_refl (blank : ρ) (parts : List (Part ρ)) (r : ρ) :
    PrecedesAll blank parts r r :=
  fun part _ => part.precedes_refl blank r

@[simp] theorem precedesAll_nil : PrecedesAll blank [] r r' := by
  simp [PrecedesAll]

@[simp] theorem precedesAll_cons {part : Part ρ} {parts : List (Part ρ)} :
    PrecedesAll blank (part :: parts) r r' ↔
      part.Precedes blank r r' ∧ PrecedesAll blank parts r r' := by
  simp [PrecedesAll]

end Part

/-! ## The parts of each record -/

/-- The parts of the description of a map. -/
def MapDescription.parts : List (Part MapDescription) :=
  [.whole (·.version), .whole (·.uid), .whole (·.environment), .whole (·.author), .whole (·.name),
   .whole (·.times), .whole (·.price), .whole (·.lapRace), .whole (·.isVirtual),
   .whole (·.trackType), .whole (·.authorScore), .whole (·.editorMode), .whole (·.checkpoints),
   .whole (·.laps)]

/-- The parts of the summary of a map. -/
def MapSummary.parts : List (Part MapSummary) :=
  [.whole (·.version), .whole (·.uid), .whole (·.environment), .whole (·.author), .whole (·.name),
   .whole (·.kind), .whole (·.locked), .whole (·.password), .whole (·.decoration),
   .whole (·.origin), .whole (·.target), .whole (·.packMask), .whole (·.mapType),
   .whole (·.mapStyle), .whole (·.lightmapCacheUid), .whole (·.lightmapVersion),
   .whole (·.titleId)]

/-- The only part of a chunk that holds a version. -/
def VersionOnly.parts : List (Part VersionOnly) :=
  [.whole (·.version)]

/-- The document and its elements, which are stored together. -/
def Community.parts : List (Part Community) :=
  [.whole (·.xml), .whole (·.elements)]

/-- The parts of a thumbnail.  The picture is stored as a whole. -/
def Thumbnail.parts : List (Part Thumbnail) :=
  [.whole (·.version), .whole (·.size), .whole (·.data), .whole (·.comments)]

/-- The parts of an author. -/
def Author.parts : List (Part Author) :=
  [.whole (·.version), .whole (·.authorVersion), .whole (·.login), .whole (·.nick),
   .whole (·.zone), .whole (·.extra)]

/-- The parts of a race of the sailing games. -/
def Regatta.parts : List (Part Regatta) :=
  [.whole (·.version), .whole (·.raceMode), .whole (·.laps), .whole (·.windDirection),
   .whole (·.windSpeed), .whole (·.buoys)]

/-- The parts of a replay. -/
def ReplaySummary.parts : List (Part ReplaySummary) :=
  [.whole (·.version), .whole (·.mapUid), .whole (·.environment), .whole (·.mapAuthor),
   .whole (·.bestTime), .whole (·.nickname), .whole (·.login), .whole (·.titleId)]

/-- The parts of an entry of the catalog. -/
def CatalogEntry.parts : List (Part CatalogEntry) :=
  [.whole (·.uid), .whole (·.collection), .whole (·.author), .whole (·.version),
   .whole (·.pageName), .whole (·.productFlags), .whole (·.catalogPosition), .whole (·.name),
   .whole (·.state)]

/-- The parts of an icon.  The picture is stored as a whole. -/
def Icon.parts : List (Part Icon) :=
  [.whole (·.width), .whole (·.height), .whole (·.image)]

/-- The only part of a time. -/
def ModificationTime.parts : List (Part ModificationTime) :=
  [.whole (·.ticks)]

/-- The parts of the skin of a block. -/
def SkinDescription.parts : List (Part SkinDescription) :=
  [.whole (·.version), .whole (·.text), .whole (·.packDesc)]

/-- The only part of a type. -/
def ItemType.parts : List (Part ItemType) :=
  [.whole (·.raw)]

/-- The parts of the folders of a skin. -/
def SkinFolders.parts : List (Part SkinFolders) :=
  [.whole (·.version), .whole (·.directory), .whole (·.texture), .whole (·.soundDirectory)]

/-- The parts of a mood. -/
def DecorationMood.parts : List (Part DecorationMood) :=
  [.whole (·.mood), .whole (·.decoration)]

/-- The parts of a chunk that is not decoded.  Its octets are kept as far as they go. -/
def Undecoded.parts : List (Part Undecoded) :=
  [.whole (·.version), .items (·.data)]

/-- The parts of a description in the oldest games. -/
def LegacyCollection.parts : List (Part LegacyCollection) :=
  [.whole (·.collection), .whole (·.name), .whole (·.needUnlock)]

/-- The parts of the description of a collection. -/
def CollectionDescription.parts : List (Part CollectionDescription) :=
  [.whole (·.version), .whole (·.collection), .whole (·.needUnlock), .whole (·.iconEnv),
   .whole (·.iconCollection), .whole (·.sortIndex), .whole (·.defaultZone), .whole (·.vehicle),
   .whole (·.mapFid), .whole (·.mapCoordElem), .whole (·.mapCoordIcon), .whole (·.loadScreen),
   .whole (·.mapCoordDesc)]

/-- The parts of the folders of a collection. -/
def FolderLayout.parts : List (Part FolderLayout) :=
  [.whole (·.version), .whole (·.blockInfo), .whole (·.item), .whole (·.decoration),
   .whole (·.menuIcons), .whole (·.displayName)]

/-- The parts of menu icons, which come one by one. -/
def MenuIcons.parts : List (Part MenuIcons) :=
  [.whole (·.version), .items (·.icons.toList)]

/-- The parts of the account of a player. -/
def PlayerProfile.parts : List (Part PlayerProfile) :=
  [.whole (·.version), .whole (·.login), .whole (·.supportKey)]

/-- The folders, which come one by one. -/
def FolderDependencies.parts : List (Part FolderDependencies) :=
  [.items (·.folders.toList)]

namespace ChunkKind

/-- The parts of the record of a kind. -/
def parts : (kind : ChunkKind) → List (Part kind.Record)
  | tmDesc => MapDescription.parts
  | common => MapSummary.parts
  | version => VersionOnly.parts
  | community => Community.parts
  | thumbnail => Thumbnail.parts
  | author => Author.parts
  | vskDesc => Regatta.parts
  | replayVersion => ReplaySummary.parts
  | collectorDesc => CatalogEntry.parts
  | icon => Icon.parts
  | time => ModificationTime.parts
  | skin => SkinDescription.parts
  | itemType => ItemType.parts
  | gameSkin => SkinFolders.parts
  | mood => DecorationMood.parts
  | unknown => Undecoded.parts
  | oldDesc => LegacyCollection.parts
  | collectionDesc => CollectionDescription.parts
  | folders => FolderLayout.parts
  | menuIcons => MenuIcons.parts
  | profile => PlayerProfile.parts
  | folderDep => FolderDependencies.parts

/-- One record of a kind is a partial version of another. -/
def Precedes (kind : ChunkKind) (r r' : kind.Record) : Prop :=
  Part.PrecedesAll kind.blank kind.parts r r'

variable {kind : ChunkKind} {r r' r'' : kind.Record}

theorem precedes_refl (kind : ChunkKind) (r : kind.Record) : kind.Precedes r r :=
  Part.precedesAll_refl kind.blank kind.parts r

theorem precedes_trans (h : kind.Precedes r r') (h' : kind.Precedes r' r'') :
    kind.Precedes r r'' :=
  fun part hpart => Part.precedes_trans (h part hpart) (h' part hpart)

/-- Records whose parts are the same are the same: every field is in a part. -/
theorem eq_of_agrees (h : ∀ part ∈ kind.parts, part.Agrees r r') : r = r' := by
  cases kind <;> cases r <;> cases r' <;>
    simpa [parts, Part.Agrees, MapDescription.parts, MapSummary.parts, VersionOnly.parts,
      Community.parts, Thumbnail.parts, Author.parts, Regatta.parts, ReplaySummary.parts,
      CatalogEntry.parts, Icon.parts, ModificationTime.parts, SkinDescription.parts,
      ItemType.parts, SkinFolders.parts, DecorationMood.parts, Undecoded.parts,
      LegacyCollection.parts, CollectionDescription.parts, FolderLayout.parts, MenuIcons.parts,
      PlayerProfile.parts, FolderDependencies.parts] using h

/-- Two records that are partial versions of each other are the same. -/
theorem eq_of_precedes (h : kind.Precedes r r') (h' : kind.Precedes r' r) : r = r' :=
  eq_of_agrees fun part hpart => Part.agrees_of_precedes (h part hpart) (h' part hpart)

end ChunkKind

/-- One chunk is a partial version of another: it is of the same kind, and its record is a partial
version of the record of the other. -/
inductive ChunkData.Precedes : ChunkData → ChunkData → Prop where
  | intro {kind : ChunkKind} {r r' : kind.Record} (h : kind.Precedes r r') :
    Precedes ⟨kind, r⟩ ⟨kind, r'⟩

theorem ChunkData.precedes_refl (chunk : ChunkData) : chunk.Precedes chunk :=
  .intro (chunk.kind.precedes_refl chunk.record)

end GameBox
