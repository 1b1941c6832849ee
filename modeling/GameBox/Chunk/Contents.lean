import GameBox.Chunk.Write

/-!
# The contents of chunks

A chunk of a kind that grew has a version, and the version says which fields it has.  The contents
of a chunk are values for all of them, those that the reader does not keep included.  From the
contents follow the octets of the chunk, in the order in which a game writes them, and the record
that it stands for: a field that the version does not have is absent.

Nothing here refers to the way in which chunks are read.  In particular the numbers that are written
for the values of an enumeration stand in tables, next to the contents that need them.

* `NumberTable`, `Numbered`: the numbers of an enumeration, and a value with its number.
* `MapDescription.Contents` and so on: the contents of each kind, with `groups`, what is written,
  and `record`, what it stands for.
* `ChunkContents`: the contents of a chunk of any of these kinds.
-/

namespace GameBox

open Identifier

/-! ## Enumerations -/

/-- The numbers of an enumeration: those of the values with a name, and what is meant by any other
number. -/
structure NumberTable (Word Value : Type) where
  named : List (Word × Value)
  unnamed : Word → Value

/-- A value of an enumeration with the number that it is written as. -/
structure Numbered {Word Value : Type} (table : NumberTable Word Value) where
  number : Word
  value : Value
  stands : (number, value) ∈ table.named ∨
    number ∉ table.named.map Prod.fst ∧ value = table.unnamed number

/-- No number is left out: each of them is written for a value. -/
theorem NumberTable.exists_numbered {Word Value : Type} [DecidableEq Word]
    (table : NumberTable Word Value) (number : Word) :
    ∃ written : Numbered table, written.number = number := by
  by_cases hnumber : number ∈ table.named.map Prod.fst
  · obtain ⟨⟨_, value⟩, hmem, rfl⟩ := List.mem_map.1 hnumber
    exact ⟨⟨_, value, .inl hmem⟩, rfl⟩
  · exact ⟨⟨number, table.unnamed number, .inr ⟨hnumber, rfl⟩⟩, rfl⟩

/-! ## Maps -/

/-- The numbers of the kinds of tracks. -/
def TrackType.numbers : NumberTable UInt32 TrackType where
  named :=
    [(0, race), (1, platform), (2, puzzle), (3, crazy), (4, shortcut), (5, stunts), (6, script)]
  unnamed := unknown

/-- What the chunk with the description of a map holds. -/
structure MapDescription.Contents where
  version : UInt8
  idents : SettledVersion
  uid : Written
  environment : Written
  author : Written
  name : ShortText
  unusedFlag : UInt32
  times : MedalTimes
  unusedOctet : UInt8
  price : UInt32
  lapRace : Bool
  isVirtual : Bool
  trackType : Numbered TrackType.numbers
  unusedWord : UInt32
  authorScore : UInt32
  editorMode : UInt32
  unusedCount : UInt32
  checkpoints : UInt32
  laps : UInt32

namespace MapDescription.Contents

/-- What is written, in the order of the fields. -/
def groups (c : Contents) : List (List Token) :=
  [[.nat8 c.version],
   Token.given (c.version < 3)
     [.ident c.uid, .ident c.environment, .ident c.author, .string c.name],
   [.nat32 c.unusedFlag],
   Token.given (1 ≤ c.version)
     [.nat32 c.times.bronze, .nat32 c.times.silver, .nat32 c.times.gold, .nat32 c.times.author],
   Token.given (c.version = 2) [.nat8 c.unusedOctet],
   Token.given (4 ≤ c.version) [.nat32 c.price],
   Token.given (5 ≤ c.version) [.bool c.lapRace],
   Token.given (c.version = 6) [.bool c.isVirtual],
   Token.given (7 ≤ c.version) [.nat32 c.trackType.number],
   Token.given (9 ≤ c.version) [.nat32 c.unusedWord],
   Token.given (10 ≤ c.version) [.nat32 c.authorScore],
   Token.given (11 ≤ c.version) [.nat32 c.editorMode],
   Token.given (12 ≤ c.version) [.nat32 c.unusedCount],
   Token.given (13 ≤ c.version) [.nat32 c.checkpoints, .nat32 c.laps]]

/-- What the contents stand for. -/
def record (c : Contents) : MapDescription where
  version := c.version
  uid := if c.version < 3 then some (c.uid.name []) else none
  environment := if c.version < 3 then some (c.environment.name [c.uid]) else none
  author := if c.version < 3 then some (c.author.name [c.uid, c.environment]) else none
  name := if c.version < 3 then some c.name.text else none
  times := if 1 ≤ c.version then some c.times else none
  price := if 4 ≤ c.version then some c.price else none
  lapRace := if 5 ≤ c.version then some c.lapRace else none
  isVirtual := if c.version = 6 then some c.isVirtual else none
  trackType := if 7 ≤ c.version then some c.trackType.value else none
  authorScore := if 10 ≤ c.version then some c.authorScore else none
  editorMode := if 11 ≤ c.version then some c.editorMode else none
  checkpoints := if 13 ≤ c.version then some c.checkpoints else none
  laps := if 13 ≤ c.version then some c.laps else none

end MapDescription.Contents

/-- The numbers of the kinds of maps. -/
def MapKind.numbers : NumberTable UInt8 MapKind where
  named :=
    [(0, endMarker), (1, campaign), (2, puzzle), (3, retro), (4, timeAttack), (5, rounds),
     (6, inProgress), (7, campaignOld), (8, multi), (9, solo), (10, site), (11, soloNadeo),
     (12, multiNadeo)]
  unnamed := unknown

/-- What the chunk with the summary of a map holds. -/
structure MapSummary.Contents where
  version : UInt8
  idents : SettledVersion
  uid : Written
  environment : Written
  author : Written
  name : ShortText
  kind : Numbered MapKind.numbers
  locked : Bool
  password : ShortText
  decoration : Written
  decorationCollection : Written
  decorationAuthor : Written
  origin : Point
  target : Point
  packMask : PackMask
  mapType : ShortText
  mapStyle : ShortText
  lightmapCacheUid : UInt64
  lightmapVersion : UInt8
  titleId : Written

namespace MapSummary.Contents

/-- What is written, in the order of the fields. -/
def groups (c : Contents) : List (List Token) :=
  [[.nat8 c.version],
   [.ident c.uid, .ident c.environment, .ident c.author, .string c.name, .nat8 c.kind.number],
   Token.given (1 ≤ c.version) [.bool c.locked, .string c.password],
   Token.given (2 ≤ c.version)
     [.ident c.decoration, .ident c.decorationCollection, .ident c.decorationAuthor],
   Token.given (3 ≤ c.version) [.real c.origin.x, .real c.origin.y],
   Token.given (4 ≤ c.version) [.real c.target.x, .real c.target.y],
   Token.given (5 ≤ c.version) [.nat128 c.packMask.bits],
   Token.given (6 ≤ c.version) [.string c.mapType, .string c.mapStyle],
   Token.given (6 ≤ c.version ∧ c.version ≤ 8) [.nat64 c.lightmapCacheUid],
   Token.given (8 ≤ c.version) [.nat8 c.lightmapVersion],
   Token.given (11 ≤ c.version) [.ident c.titleId]]

/-- The decoration, whose identifiers stand behind those of the map. -/
def decorationNames (c : Contents) : Decoration where
  id := c.decoration.name [c.uid, c.environment, c.author]
  collection := c.decorationCollection.name [c.uid, c.environment, c.author, c.decoration]
  author := c.decorationAuthor.name
    [c.uid, c.environment, c.author, c.decoration, c.decorationCollection]

/-- What the contents stand for. -/
def record (c : Contents) : MapSummary where
  version := c.version
  uid := some (c.uid.name [])
  environment := some (c.environment.name [c.uid])
  author := some (c.author.name [c.uid, c.environment])
  name := some c.name.text
  kind := some c.kind.value
  locked := if 1 ≤ c.version then some c.locked else none
  password := if 1 ≤ c.version then some c.password.text else none
  decoration := if 2 ≤ c.version then some c.decorationNames else none
  origin := if 3 ≤ c.version then some c.origin else none
  target := if 4 ≤ c.version then some c.target else none
  packMask := if 5 ≤ c.version then some c.packMask else none
  mapType := if 6 ≤ c.version then some c.mapType.text else none
  mapStyle := if 6 ≤ c.version then some c.mapStyle.text else none
  lightmapCacheUid :=
    if 6 ≤ c.version ∧ c.version ≤ 8 then some c.lightmapCacheUid else none
  lightmapVersion := if 8 ≤ c.version then some c.lightmapVersion else none
  titleId :=
    if 11 ≤ c.version then
      some (c.titleId.name [c.uid, c.environment, c.author, c.decoration, c.decorationCollection,
        c.decorationAuthor])
    else none

end MapSummary.Contents

/-- The numbers of the modes of a race. -/
def RaceMode.numbers : NumberTable UInt32 RaceMode where
  named := [(0, fleet), (1, duel), (2, team)]
  unnamed := unknown

/-- What the chunk with the parameters of a race holds. -/
structure Regatta.Contents where
  version : UInt8
  raceMode : Numbered RaceMode.numbers
  laps : UInt32
  windDirection : UInt32
  windSpeed : Binary32
  buoys : UInt32

namespace Regatta.Contents

/-- What is written, in the order of the fields. -/
def groups (c : Contents) : List (List Token) :=
  [[.nat8 c.version],
   [.nat32 c.raceMode.number, .nat32 c.laps],
   Token.given (1 ≤ c.version) [.nat32 c.windDirection, .real c.windSpeed],
   Token.given (2 ≤ c.version) [.nat32 c.buoys]]

/-- What the contents stand for. -/
def record (c : Contents) : Regatta where
  version := c.version
  raceMode := some c.raceMode.value
  laps := some c.laps
  windDirection := if 1 ≤ c.version then some c.windDirection else none
  windSpeed := if 1 ≤ c.version then some c.windSpeed else none
  buoys := if 2 ≤ c.version then some c.buoys else none

end Regatta.Contents

/-! ## Replays and profiles -/

/-- What the chunk with the summary of a replay holds. -/
structure ReplaySummary.Contents where
  version : UInt32
  idents : SettledVersion
  mapUid : Written
  environment : Written
  mapAuthor : Written
  bestTime : UInt32
  nickname : ShortText
  login : ShortText
  unusedOctet : UInt8
  titleId : Written

namespace ReplaySummary.Contents

/-- What is written, in the order of the fields. -/
def groups (c : Contents) : List (List Token) :=
  [[.nat32 c.version],
   Token.given (2 ≤ c.version)
     [.ident c.mapUid, .ident c.environment, .ident c.mapAuthor, .nat32 c.bestTime,
       .string c.nickname],
   Token.given (6 ≤ c.version) [.string c.login],
   Token.given (8 ≤ c.version) [.nat8 c.unusedOctet, .ident c.titleId]]

/-- What the contents stand for. -/
def record (c : Contents) : ReplaySummary where
  version := c.version
  mapUid := if 2 ≤ c.version then some (c.mapUid.name []) else none
  environment := if 2 ≤ c.version then some (c.environment.name [c.mapUid]) else none
  mapAuthor := if 2 ≤ c.version then some (c.mapAuthor.name [c.mapUid, c.environment]) else none
  bestTime := if 2 ≤ c.version then some c.bestTime else none
  nickname := if 2 ≤ c.version then some c.nickname.text else none
  login := if 6 ≤ c.version then some c.login.text else none
  titleId :=
    if 8 ≤ c.version then some (c.titleId.name [c.mapUid, c.environment, c.mapAuthor]) else none

end ReplaySummary.Contents

/-- What the chunk with the profile of a player holds. -/
structure PlayerProfile.Contents where
  version : UInt32
  login : ShortText
  supportKey : ShortText

namespace PlayerProfile.Contents

/-- What is written, in the order of the fields. -/
def groups (c : Contents) : List (List Token) :=
  [[.nat32 c.version],
   [.string c.login],
   Token.given (1 ≤ c.version) [.string c.supportKey]]

/-- What the contents stand for. -/
def record (c : Contents) : PlayerProfile where
  version := c.version
  login := some c.login.text
  supportKey := if 1 ≤ c.version then some c.supportKey.text else none

end PlayerProfile.Contents

/-! ## Items and skins -/

/-- The numbers of the states of production. -/
def ProductionState.numbers : NumberTable UInt8 ProductionState where
  named := [(0, aborted), (1, gameBox), (2, devBuild), (3, release)]
  unnamed := unknown

/-- What the chunk with the catalog entry of an item holds. -/
structure CatalogEntry.Contents where
  idents : SettledVersion
  uid : Written
  collection : Written
  author : Written
  version : UInt32
  pageName : ShortText
  unusedWord : UInt32
  productFlags : UInt32
  catalogPosition : UInt16
  name : ShortText
  state : Numbered ProductionState.numbers

namespace CatalogEntry.Contents

/-- What is written, in the order of the fields. -/
def groups (c : Contents) : List (List Token) :=
  [[.ident c.uid, .ident c.collection, .ident c.author, .nat32 c.version],
   [.string c.pageName],
   Token.given (c.version = 5) [.nat32 c.unusedWord],
   Token.given (4 ≤ c.version) [.nat32 c.productFlags],
   Token.given (3 ≤ c.version) [.nat16 c.catalogPosition],
   Token.given (7 ≤ c.version) [.string c.name],
   Token.given (8 ≤ c.version) [.nat8 c.state.number]]

/-- What the contents stand for. -/
def record (c : Contents) : CatalogEntry where
  uid := some (c.uid.name [])
  collection := some (c.collection.name [c.uid])
  author := some (c.author.name [c.uid, c.collection])
  version := some c.version
  pageName := some c.pageName.text
  productFlags := if 4 ≤ c.version then some c.productFlags else none
  catalogPosition := if 3 ≤ c.version then some c.catalogPosition else none
  name := if 7 ≤ c.version then some c.name.text else none
  state := if 8 ≤ c.version then some c.state.value else none

end CatalogEntry.Contents

/-- What the chunk with the skin of a block holds. -/
structure SkinDescription.Contents where
  version : UInt32
  text : ShortText
  packDesc : ShortText

namespace SkinDescription.Contents

/-- What is written, in the order of the fields. -/
def groups (c : Contents) : List (List Token) :=
  [[.nat32 c.version],
   [.string c.text],
   Token.given (1 ≤ c.version) [.string c.packDesc]]

/-- What the contents stand for. -/
def record (c : Contents) : SkinDescription where
  version := c.version
  text := some c.text.text
  packDesc := if 1 ≤ c.version then some c.packDesc.text else none

end SkinDescription.Contents

/-- What the chunk with the folders of the skin of a vehicle holds. -/
structure SkinFolders.Contents where
  version : UInt8
  directory : ShortText
  texture : ShortText
  soundDirectory : ShortText

namespace SkinFolders.Contents

/-- What is written, in the order of the fields. -/
def groups (c : Contents) : List (List Token) :=
  [[.nat8 c.version],
   [.string c.directory],
   Token.given (1 ≤ c.version) [.string c.texture],
   Token.given (2 ≤ c.version) [.string c.soundDirectory]]

/-- What the contents stand for. -/
def record (c : Contents) : SkinFolders where
  version := c.version
  directory := some c.directory.text
  texture := if 1 ≤ c.version then some c.texture.text else none
  soundDirectory := if 2 ≤ c.version then some c.soundDirectory.text else none

end SkinFolders.Contents

/-! ## Collections -/

/-- What the chunk with the description of a collection holds. -/
structure CollectionDescription.Contents where
  version : UInt8
  idents : SettledVersion
  collection : Written
  needUnlock : Bool
  iconEnv : ShortText
  iconCollection : ShortText
  sortIndex : UInt32
  defaultZone : Written
  vehicle : Written
  vehicleCollection : Written
  vehicleAuthor : Written
  mapFid : ShortText
  mapCoordElem : Point
  mapCoordIcon : Point
  loadScreen : ShortText
  mapCoordDesc : Point

namespace CollectionDescription.Contents

/-- What is written, in the order of the fields. -/
def groups (c : Contents) : List (List Token) :=
  [[.nat8 c.version],
   [.ident c.collection, .bool c.needUnlock],
   Token.given (1 ≤ c.version) [.string c.iconEnv, .string c.iconCollection],
   Token.given (2 ≤ c.version) [.nat32 c.sortIndex],
   Token.given (3 ≤ c.version) [.ident c.defaultZone],
   Token.given (4 ≤ c.version)
     [.ident c.vehicle, .ident c.vehicleCollection, .ident c.vehicleAuthor],
   Token.given (5 ≤ c.version) [.string c.mapFid],
   Token.given (6 ≤ c.version)
     [.real c.mapCoordElem.x, .real c.mapCoordElem.y, .real c.mapCoordIcon.x,
       .real c.mapCoordIcon.y],
   Token.given (7 ≤ c.version) [.string c.loadScreen],
   Token.given (8 ≤ c.version) [.real c.mapCoordDesc.x, .real c.mapCoordDesc.y]]

/-- The vehicle, whose identifiers stand behind that of the default zone. -/
def vehicleNames (c : Contents) : Vehicle where
  id := c.vehicle.name [c.collection, c.defaultZone]
  collection := c.vehicleCollection.name [c.collection, c.defaultZone, c.vehicle]
  author := c.vehicleAuthor.name
    [c.collection, c.defaultZone, c.vehicle, c.vehicleCollection]

/-- What the contents stand for. -/
def record (c : Contents) : CollectionDescription where
  version := c.version
  collection := some (c.collection.name [])
  needUnlock := some c.needUnlock
  iconEnv := if 1 ≤ c.version then some c.iconEnv.text else none
  iconCollection := if 1 ≤ c.version then some c.iconCollection.text else none
  sortIndex := if 2 ≤ c.version then some c.sortIndex else none
  defaultZone := if 3 ≤ c.version then some (c.defaultZone.name [c.collection]) else none
  vehicle := if 4 ≤ c.version then some c.vehicleNames else none
  mapFid := if 5 ≤ c.version then some c.mapFid.text else none
  mapCoordElem := if 6 ≤ c.version then some c.mapCoordElem else none
  mapCoordIcon := if 6 ≤ c.version then some c.mapCoordIcon else none
  loadScreen := if 7 ≤ c.version then some c.loadScreen.text else none
  mapCoordDesc := if 8 ≤ c.version then some c.mapCoordDesc else none

end CollectionDescription.Contents

/-- What the chunk with the folders of a collection holds. -/
structure FolderLayout.Contents where
  version : UInt8
  blockInfo : ShortText
  item : ShortText
  decoration : ShortText
  menuIcons : ShortText
  displayName : ShortText

namespace FolderLayout.Contents

/-- What is written, in the order of the fields. -/
def groups (c : Contents) : List (List Token) :=
  [[.nat8 c.version],
   [.string c.blockInfo, .string c.item, .string c.decoration],
   Token.given (1 ≤ c.version) [.string c.menuIcons],
   Token.given (3 ≤ c.version) [.string c.displayName]]

/-- What the contents stand for. -/
def record (c : Contents) : FolderLayout where
  version := c.version
  blockInfo := some c.blockInfo.text
  item := some c.item.text
  decoration := some c.decoration.text
  menuIcons := if 1 ≤ c.version then some c.menuIcons.text else none
  displayName := if 3 ≤ c.version then some c.displayName.text else none

end FolderLayout.Contents

/-! ## All kinds that grew -/

/-- The contents of a chunk. -/
inductive ChunkContents where
  | tmDesc (contents : MapDescription.Contents)
  | common (contents : MapSummary.Contents)
  | vskDesc (contents : Regatta.Contents)
  | replayVersion (contents : ReplaySummary.Contents)
  | collectorDesc (contents : CatalogEntry.Contents)
  | skin (contents : SkinDescription.Contents)
  | gameSkin (contents : SkinFolders.Contents)
  | collectionDesc (contents : CollectionDescription.Contents)
  | folders (contents : FolderLayout.Contents)
  | profile (contents : PlayerProfile.Contents)

namespace ChunkContents

/-- The chunk that contents stand for. -/
def data : ChunkContents → ChunkData
  | tmDesc contents => ⟨.tmDesc, contents.record⟩
  | common contents => ⟨.common, contents.record⟩
  | vskDesc contents => ⟨.vskDesc, contents.record⟩
  | replayVersion contents => ⟨.replayVersion, contents.record⟩
  | collectorDesc contents => ⟨.collectorDesc, contents.record⟩
  | skin contents => ⟨.skin, contents.record⟩
  | gameSkin contents => ⟨.gameSkin, contents.record⟩
  | collectionDesc contents => ⟨.collectionDesc, contents.record⟩
  | folders contents => ⟨.folders, contents.record⟩
  | profile contents => ⟨.profile, contents.record⟩

/-- What contents are written as. -/
def groups : ChunkContents → List (List Token)
  | tmDesc contents => contents.groups
  | common contents => contents.groups
  | vskDesc contents => contents.groups
  | replayVersion contents => contents.groups
  | collectorDesc contents => contents.groups
  | skin contents => contents.groups
  | gameSkin contents => contents.groups
  | collectionDesc contents => contents.groups
  | folders contents => contents.groups
  | profile contents => contents.groups

/-- The version of the identifiers; kinds without identifiers never write it. -/
def idents : ChunkContents → SettledVersion
  | tmDesc contents => contents.idents
  | common contents => contents.idents
  | replayVersion contents => contents.idents
  | collectorDesc contents => contents.idents
  | collectionDesc contents => contents.idents
  | vskDesc _ | skin _ | gameSkin _ | folders _ | profile _ => .least

/-- The octets of a chunk. -/
def write (contents : ChunkContents) : List UInt8 :=
  Token.writeAll contents.idents [] contents.groups.flatten

end ChunkContents
end GameBox
