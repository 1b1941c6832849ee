import GameBox.Chunk.Data

/-!
# What the versions of a chunk have

Ten kinds of chunks grew from version to version.  Every field of such a chunk belongs to a rung of
a ladder, and the rung says which versions have it.  A field that the version does not have is
missing from the record, and so are the fields behind the end of a chunk that is cut off.

The ladders say nothing about how a field is written.  A rung that only passes over octets has no
fields.

* `Rung`, `Ladder`: the fields of a chunk in their order, as questions whether a field is there.
* `Ladder.Climbed`: the records that are filled from the bottom of a ladder.
* `GrownKind`, `GrownKind.ladder`: the kinds of chunks that grew, with `GrownKind.eq_of_bare`, which
  says that the ladders leave nothing out.
-/

namespace GameBox

/-- Fields that the same versions have; each is the question whether a record has it. -/
structure Rung (ρ : Type) where
  admits : (version : Nat) → Bool
  fields : List (ρ → Bool)

/-- The fields of a chunk, in the order in which they are read. -/
structure Ladder (ρ : Type) where
  /-- The fields in front of the version. -/
  base : List (ρ → Bool) := []
  version : ρ → Nat
  rungs : List (Rung ρ)

namespace Ladder

variable {ρ : Type}

/-- All fields, whatever versions have them. -/
def fields (ladder : Ladder ρ) : List (ρ → Bool) :=
  ladder.base ++ ladder.rungs.flatMap Rung.fields

/-- The rungs that a version has. -/
def admitted (ladder : Ladder ρ) (version : Nat) : List (Rung ρ) :=
  ladder.rungs.filter fun rung => rung.admits version

/-- The fields that a version has. -/
def fieldsOf (ladder : Ladder ρ) (version : Nat) : List (ρ → Bool) :=
  ladder.base ++ (ladder.admitted version).flatMap Rung.fields

/-- The record is filled from the bottom: it has the first of the fields that its version has, and
no others. -/
structure Climbed (ladder : Ladder ρ) (record : ρ) (succeeded exhausted : Prop) : Prop where
  /-- A field is there only if the version has it. -/
  admits : ∀ rung ∈ ladder.rungs, ∀ field ∈ rung.fields, field record = true →
    rung.admits (ladder.version record) = true
  /-- With a field, all fields of the version in front of it are there. -/
  inOrder : (ladder.fieldsOf (ladder.version record)).Pairwise
    fun earlier later => later record = true → earlier record = true
  /-- If reading succeeded, every rung is there as a whole or missing as a whole, and nothing is
  missing unless no octet was left. -/
  whole : succeeded → ∃ climbed missing,
    ladder.admitted (ladder.version record) = climbed ++ missing ∧
    (∀ field ∈ ladder.base ++ climbed.flatMap Rung.fields, field record = true) ∧
    (∀ field ∈ missing.flatMap Rung.fields, field record = false) ∧
    (missing = [] ∨ exhausted)

end Ladder

/-! ## The ladder of each kind -/

/-- The rungs of the description of a map.  Version 6 alone has a field that no other has. -/
def MapDescription.ladder : Ladder MapDescription where
  version r := r.version.toNat
  rungs :=
    [⟨fun v => v < 3,
      [(·.uid.isSome), (·.environment.isSome), (·.author.isSome), (·.name.isSome)]⟩,
     ⟨fun _ => true, []⟩,
     ⟨fun v => 1 ≤ v, [(·.times.isSome)]⟩,
     ⟨fun v => v = 2, []⟩,
     ⟨fun v => 4 ≤ v, [(·.price.isSome)]⟩,
     ⟨fun v => 5 ≤ v, [(·.lapRace.isSome)]⟩,
     ⟨fun v => v = 6, [(·.isVirtual.isSome)]⟩,
     ⟨fun v => 7 ≤ v, [(·.trackType.isSome)]⟩,
     ⟨fun v => 9 ≤ v, []⟩,
     ⟨fun v => 10 ≤ v, [(·.authorScore.isSome)]⟩,
     ⟨fun v => 11 ≤ v, [(·.editorMode.isSome)]⟩,
     ⟨fun v => 12 ≤ v, []⟩,
     ⟨fun v => 13 ≤ v, [(·.checkpoints.isSome), (·.laps.isSome)]⟩]

/-- The rungs of the summary of a map.  The mark on the lightmap goes away again. -/
def MapSummary.ladder : Ladder MapSummary where
  version r := r.version.toNat
  rungs :=
    [⟨fun _ => true,
      [(·.uid.isSome), (·.environment.isSome), (·.author.isSome), (·.name.isSome),
       (·.kind.isSome)]⟩,
     ⟨fun v => 1 ≤ v, [(·.locked.isSome), (·.password.isSome)]⟩,
     ⟨fun v => 2 ≤ v, [(·.decoration.isSome)]⟩,
     ⟨fun v => 3 ≤ v, [(·.origin.isSome)]⟩,
     ⟨fun v => 4 ≤ v, [(·.target.isSome)]⟩,
     ⟨fun v => 5 ≤ v, [(·.packMask.isSome)]⟩,
     ⟨fun v => 6 ≤ v, [(·.mapType.isSome), (·.mapStyle.isSome)]⟩,
     ⟨fun v => 6 ≤ v && v ≤ 8, [(·.lightmapCacheUid.isSome)]⟩,
     ⟨fun v => 8 ≤ v, [(·.lightmapVersion.isSome)]⟩,
     ⟨fun v => 11 ≤ v, [(·.titleId.isSome)]⟩]

/-- The rungs of a race of the sailing games. -/
def Regatta.ladder : Ladder Regatta where
  version r := r.version.toNat
  rungs :=
    [⟨fun _ => true, [(·.raceMode.isSome), (·.laps.isSome)]⟩,
     ⟨fun v => 1 ≤ v, [(·.windDirection.isSome), (·.windSpeed.isSome)]⟩,
     ⟨fun v => 2 ≤ v, [(·.buoys.isSome)]⟩]

/-- The rungs of a replay, of which the first versions have none. -/
def ReplaySummary.ladder : Ladder ReplaySummary where
  version r := r.version.toNat
  rungs :=
    [⟨fun v => 2 ≤ v,
      [(·.mapUid.isSome), (·.environment.isSome), (·.mapAuthor.isSome), (·.bestTime.isSome),
       (·.nickname.isSome)]⟩,
     ⟨fun v => 6 ≤ v, [(·.login.isSome)]⟩,
     ⟨fun v => 8 ≤ v, [(·.titleId.isSome)]⟩]

/-- The version is a field of its own here, and three names stand in front of it. -/
def CatalogEntry.ladder : Ladder CatalogEntry where
  base := [(·.uid.isSome), (·.collection.isSome), (·.author.isSome), (·.version.isSome)]
  version r := (r.version.getD 0).toNat
  rungs :=
    [⟨fun _ => true, [(·.pageName.isSome)]⟩,
     ⟨fun v => v = 5, []⟩,
     ⟨fun v => 4 ≤ v, [(·.productFlags.isSome)]⟩,
     ⟨fun v => 3 ≤ v, [(·.catalogPosition.isSome)]⟩,
     ⟨fun v => 7 ≤ v, [(·.name.isSome)]⟩,
     ⟨fun v => 8 ≤ v, [(·.state.isSome)]⟩]

/-- The rungs of the skin of a block. -/
def SkinDescription.ladder : Ladder SkinDescription where
  version r := r.version.toNat
  rungs :=
    [⟨fun _ => true, [(·.text.isSome)]⟩,
     ⟨fun v => 1 ≤ v, [(·.packDesc.isSome)]⟩]

/-- The rungs of the folders of a skin. -/
def SkinFolders.ladder : Ladder SkinFolders where
  version r := r.version.toNat
  rungs :=
    [⟨fun _ => true, [(·.directory.isSome)]⟩,
     ⟨fun v => 1 ≤ v, [(·.texture.isSome)]⟩,
     ⟨fun v => 2 ≤ v, [(·.soundDirectory.isSome)]⟩]

/-- The rungs of the description of a collection. -/
def CollectionDescription.ladder : Ladder CollectionDescription where
  version r := r.version.toNat
  rungs :=
    [⟨fun _ => true, [(·.collection.isSome), (·.needUnlock.isSome)]⟩,
     ⟨fun v => 1 ≤ v, [(·.iconEnv.isSome), (·.iconCollection.isSome)]⟩,
     ⟨fun v => 2 ≤ v, [(·.sortIndex.isSome)]⟩,
     ⟨fun v => 3 ≤ v, [(·.defaultZone.isSome)]⟩,
     ⟨fun v => 4 ≤ v, [(·.vehicle.isSome)]⟩,
     ⟨fun v => 5 ≤ v, [(·.mapFid.isSome)]⟩,
     ⟨fun v => 6 ≤ v, [(·.mapCoordElem.isSome), (·.mapCoordIcon.isSome)]⟩,
     ⟨fun v => 7 ≤ v, [(·.loadScreen.isSome)]⟩,
     ⟨fun v => 8 ≤ v, [(·.mapCoordDesc.isSome)]⟩]

/-- The rungs of the folders of a collection; version 2 adds nothing. -/
def FolderLayout.ladder : Ladder FolderLayout where
  version r := r.version.toNat
  rungs :=
    [⟨fun _ => true, [(·.blockInfo.isSome), (·.item.isSome), (·.decoration.isSome)]⟩,
     ⟨fun v => 1 ≤ v, [(·.menuIcons.isSome)]⟩,
     ⟨fun v => 3 ≤ v, [(·.displayName.isSome)]⟩]

/-- The rungs of the account of a player. -/
def PlayerProfile.ladder : Ladder PlayerProfile where
  version r := r.version.toNat
  rungs :=
    [⟨fun _ => true, [(·.login.isSome)]⟩,
     ⟨fun v => 1 ≤ v, [(·.supportKey.isSome)]⟩]

/-! ## The kinds that grew -/

/-- The kinds of chunks that grew from version to version. -/
inductive GrownKind where
  | tmDesc
  | common
  | vskDesc
  | replayVersion
  | collectorDesc
  | skin
  | gameSkin
  | collectionDesc
  | folders
  | profile
  deriving DecidableEq, Repr

namespace GrownKind

/-- A kind that grew, as a kind of chunks. -/
abbrev kind : GrownKind → ChunkKind
  | tmDesc => .tmDesc
  | common => .common
  | vskDesc => .vskDesc
  | replayVersion => .replayVersion
  | collectorDesc => .collectorDesc
  | skin => .skin
  | gameSkin => .gameSkin
  | collectionDesc => .collectionDesc
  | folders => .folders
  | profile => .profile

/-- What the versions of a kind have. -/
def ladder : (grown : GrownKind) → Ladder grown.kind.Record
  | tmDesc => MapDescription.ladder
  | common => MapSummary.ladder
  | vskDesc => Regatta.ladder
  | replayVersion => ReplaySummary.ladder
  | collectorDesc => CatalogEntry.ladder
  | skin => SkinDescription.ladder
  | gameSkin => SkinFolders.ladder
  | collectionDesc => CollectionDescription.ladder
  | folders => FolderLayout.ladder
  | profile => PlayerProfile.ladder

/-- A record without fields is nothing but a version: every field is in the ladder. -/
theorem eq_of_bare {grown : GrownKind} {r r' : grown.kind.Record}
    (hversion : grown.ladder.version r = grown.ladder.version r')
    (h : ∀ field ∈ grown.ladder.fields, field r = false)
    (h' : ∀ field ∈ grown.ladder.fields, field r' = false) : r = r' := by
  cases grown <;> cases r <;> cases r' <;>
    simp_all [ladder, Ladder.fields, MapDescription.ladder, MapSummary.ladder, Regatta.ladder,
      ReplaySummary.ladder, CatalogEntry.ladder, SkinDescription.ladder, SkinFolders.ladder,
      CollectionDescription.ladder, FolderLayout.ladder, PlayerProfile.ladder, UInt8.toNat_inj,
      UInt32.toNat_inj]

end GrownKind
end GameBox
