import GameBox.Chunk.Layout
import GameBox.Chunk.Row
import GameBox.PackMask
import GameBox.Time.Race

/-!
# Chunks of maps

* `MapDescription`: medals, track type and laps.
* `MapSummary`: identity, kind, decoration, content packs.
* `Thumbnail`: a picture and comments, between markers.
* `Author`: who made a map or a replay.
* `Regatta`: the parameters of a race of the sailing games.

Each record has its layout (or decoder), its rows and its JSON form.
-/

namespace GameBox

/-! ## Description -/

/-- The kinds of tracks. -/
inductive TrackType where
  | race
  | platform
  | puzzle
  | crazy
  | shortcut
  | stunts
  | script
  | unknown (raw : UInt32)
  deriving DecidableEq, Repr

namespace TrackType

/-- The kind of track with a number. -/
def ofRaw (raw : UInt32) : TrackType :=
  match raw.toNat with
  | 0 => race
  | 1 => platform
  | 2 => puzzle
  | 3 => crazy
  | 4 => shortcut
  | 5 => stunts
  | 6 => script
  | _ => unknown raw

/-- How a kind of track is called. -/
def label : TrackType → Label
  | race => .named "Race"
  | platform => .named "Platform"
  | puzzle => .named "Puzzle"
  | crazy => .named "Crazy"
  | shortcut => .named "Shortcut"
  | stunts => .named "Stunts"
  | script => .named "Script"
  | unknown raw => .numbered raw.toNat

/-- Whether the medals of a track are times: platform tracks count respawns, stunts count
points. -/
def timesAsTime : TrackType → Bool
  | platform | stunts => false
  | _ => true

end TrackType

/-- The results that earn the medals. -/
structure MedalTimes where
  bronze : UInt32
  silver : UInt32
  gold : UInt32
  author : UInt32
  deriving DecidableEq, Repr

/-- The medals, track type and laps of a map. -/
structure MapDescription where
  version : UInt8 := 0
  uid : Option String := none
  environment : Option String := none
  author : Option String := none
  name : Option String := none
  times : Option MedalTimes := none
  price : Option UInt32 := none
  lapRace : Option Bool := none
  isVirtual : Option Bool := none
  trackType : Option TrackType := none
  authorScore : Option UInt32 := none
  editorMode : Option UInt32 := none
  checkpoints : Option UInt32 := none
  laps : Option UInt32 := none
  deriving DecidableEq, Repr

namespace MapDescription

/-- The names are those of the oldest versions only.  Some versions have words that are passed over,
and version 6 alone says whether a map is virtual. -/
def layout : Layout MapDescription where
  base := [.field .nat8 fun v r => { r with version := v }]
  version r := r.version.toNat
  layers :=
    [⟨.before 3,
      [.name fun v r => { r with uid := some v },
       .name fun v r => { r with environment := some v },
       .name fun v r => { r with author := some v },
       .field .string fun v r => { r with name := some v }]⟩,
     ⟨.all, [.unused .bool]⟩,
     ⟨.since 1,
      [.quad .nat32 fun a b c d r => { r with times := some ⟨a, b, c, d⟩ }]⟩,
     ⟨.only 2, [.unused .nat8]⟩,
     ⟨.since 4, [.field .nat32 fun v r => { r with price := some v }]⟩,
     ⟨.since 5, [.field .bool fun v r => { r with lapRace := some v }]⟩,
     ⟨.only 6, [.field .bool fun v r => { r with isVirtual := some v }]⟩,
     ⟨.since 7, [.field .nat32 fun v r => { r with trackType := some (.ofRaw v) }]⟩,
     ⟨.since 9, [.unused .nat32]⟩,
     ⟨.since 10, [.field .nat32 fun v r => { r with authorScore := some v }]⟩,
     ⟨.since 11, [.field .nat32 fun v r => { r with editorMode := some v }]⟩,
     ⟨.since 12, [.unused .nat32]⟩,
     ⟨.since 13,
      [.field .nat32 fun v r => { r with checkpoints := some v },
       .field .nat32 fun v r => { r with laps := some v }]⟩]

/-- Whether the medals are times, which they are unless the track type says otherwise. -/
def timesAsTime (r : MapDescription) : Bool := r.trackType.all TrackType.timesAsTime

/-- The bit of the editor mode that says whether the editor was the simple one. -/
def simpleBit : UInt32 := 0x1

/-- The bit of the editor mode that says whether there are ghost blocks. -/
def ghostBlocksBit : UInt32 := 0x4

/-- Whether the map was made in the simple editor. -/
def simpleEditor (r : MapDescription) : Option Bool :=
  r.editorMode.map fun mode => mode &&& simpleBit ≠ 0

/-- Whether the map has ghost blocks. -/
def hasGhostBlocks (r : MapDescription) : Option Bool :=
  r.editorMode.map fun mode => mode &&& ghostBlocksBit ≠ 0

/-- The text of a result, which is a time or a plain number. -/
def showResult (asTime : Bool) (value : UInt32) : String :=
  if asTime then RaceTime.annotate value else showNat32 value

/-- The text of an editor mode. -/
def showEditorMode (mode : UInt32) : String :=
  (if mode &&& simpleBit ≠ 0 then "Simple" else "Advanced") ++
    (if mode &&& ghostBlocksBit ≠ 0 then ", GhostBlocks" else "")

/-- What is shown of a description; the medals are shown as times unless the track type counts
something else. -/
def rows (r : MapDescription) : List Row :=
  let result (medal : MedalTimes → UInt32) : Option String :=
    r.times.map fun times => showResult r.timesAsTime (medal times)
  Row.list
    [("Version", some (showNat8 r.version)),
     ("Uid", r.uid),
     ("Environment", r.environment),
     ("Author", r.author),
     ("Name", r.name),
     ("Bronze", result MedalTimes.bronze),
     ("Silver", result MedalTimes.silver),
     ("Gold", result MedalTimes.gold),
     ("BestTime", result MedalTimes.author),
     ("Price", r.price.map showNat32),
     ("LapRace", r.lapRace.map showBool),
     ("Virtual", r.isVirtual.map showBool),
     ("TrackType", r.trackType.map fun type => type.label.text),
     ("AuthorScore", r.authorScore.map showNat32),
     ("EditorMode", r.editorMode.map showEditorMode),
     ("Checkpoints", r.checkpoints.map showNat32),
     ("Laps", r.laps.map showNat32)]

/-- The JSON form of a description. -/
def toJson (r : MapDescription) : Json :=
  let times (t : MedalTimes) : Json :=
    .object
      [("bronze", jsonNat32 t.bronze), ("silver", jsonNat32 t.silver),
       ("gold", jsonNat32 t.gold), ("author", jsonNat32 t.author)]
  .object
    [("version", jsonNat8 r.version),
     ("uid", .option .string r.uid),
     ("environment", .option .string r.environment),
     ("author", .option .string r.author),
     ("name", .option .string r.name),
     ("times", .option times r.times),
     ("price", .option jsonNat32 r.price),
     ("lap_race", .option .bool r.lapRace),
     ("is_virtual", .option .bool r.isVirtual),
     ("track_type", .option (fun type => type.label.toJson) r.trackType),
     ("author_score", .option jsonNat32 r.authorScore),
     ("editor_mode", .option jsonNat32 r.editorMode),
     ("checkpoints", .option jsonNat32 r.checkpoints),
     ("laps", .option jsonNat32 r.laps)]

end MapDescription

/-! ## Summary -/

/-- The kinds of maps. -/
inductive MapKind where
  | endMarker
  | campaign
  | puzzle
  | retro
  | timeAttack
  | rounds
  | inProgress
  | campaignOld
  | multi
  | solo
  | site
  | soloNadeo
  | multiNadeo
  | unknown (raw : UInt8)
  deriving DecidableEq, Repr

namespace MapKind

/-- The kind of map with a number. -/
def ofRaw (raw : UInt8) : MapKind :=
  match raw.toNat with
  | 0 => endMarker
  | 1 => campaign
  | 2 => puzzle
  | 3 => retro
  | 4 => timeAttack
  | 5 => rounds
  | 6 => inProgress
  | 7 => campaignOld
  | 8 => multi
  | 9 => solo
  | 10 => site
  | 11 => soloNadeo
  | 12 => multiNadeo
  | _ => unknown raw

/-- How a kind of map is called. -/
def label : MapKind → Label
  | endMarker => .named "EndMarker"
  | campaign => .named "Campaign"
  | puzzle => .named "Puzzle"
  | retro => .named "Retro"
  | timeAttack => .named "TimeAttack"
  | rounds => .named "Rounds"
  | inProgress => .named "InProgress"
  | campaignOld => .named "CampaignOld"
  | multi => .named "Multi"
  | solo => .named "Solo"
  | site => .named "Site"
  | soloNadeo => .named "SoloNadeo"
  | multiNadeo => .named "MultiNadeo"
  | unknown raw => .numbered raw.toNat

end MapKind

/-- The decoration of a map, which sets its mood. -/
structure Decoration where
  id : String
  collection : String
  author : String
  deriving DecidableEq, Repr

/-- The identity, kind, decoration and content packs of a map. -/
structure MapSummary where
  version : UInt8 := 0
  uid : Option String := none
  environment : Option String := none
  author : Option String := none
  name : Option String := none
  kind : Option MapKind := none
  locked : Option Bool := none
  password : Option String := none
  decoration : Option Decoration := none
  origin : Option Point := none
  target : Option Point := none
  packMask : Option PackMask := none
  mapType : Option String := none
  mapStyle : Option String := none
  lightmapCacheUid : Option UInt64 := none
  lightmapVersion : Option UInt8 := none
  titleId : Option String := none
  deriving DecidableEq, Repr

namespace MapSummary

/-- Each version adds to the one before, but the mark on the lightmap is there in versions 6 to 8
only. -/
def layout : Layout MapSummary where
  base := [.field .nat8 fun v r => { r with version := v }]
  version r := r.version.toNat
  layers :=
    [⟨.all,
      [.name fun v r => { r with uid := some v },
       .name fun v r => { r with environment := some v },
       .name fun v r => { r with author := some v },
       .field .string fun v r => { r with name := some v },
       .field .nat8 fun v r => { r with kind := some (.ofRaw v) }]⟩,
     ⟨.since 1,
      [.field .bool fun v r => { r with locked := some v },
       .field .string fun v r => { r with password := some v }]⟩,
     ⟨.since 2, [.triple fun a b c r => { r with decoration := some ⟨a, b, c⟩ }]⟩,
     ⟨.since 3, [.pair .real fun x y r => { r with origin := some ⟨x, y⟩ }]⟩,
     ⟨.since 4, [.pair .real fun x y r => { r with target := some ⟨x, y⟩ }]⟩,
     ⟨.since 5, [.field .nat128 fun v r => { r with packMask := some ⟨v⟩ }]⟩,
     ⟨.since 6,
      [.field .string fun v r => { r with mapType := some v },
       .field .string fun v r => { r with mapStyle := some v }]⟩,
     ⟨.between 6 8, [.field .nat64 fun v r => { r with lightmapCacheUid := some v }]⟩,
     ⟨.since 8, [.field .nat8 fun v r => { r with lightmapVersion := some v }]⟩,
     ⟨.since 11, [.name fun v r => { r with titleId := some v }]⟩]

/-- The content packs of a map, as its environment names them. -/
def packMaskName (r : MapSummary) : Option String :=
  r.packMask.map fun mask => mask.describe (r.environment.getD "")

/-- The text of a mark on a lightmap. -/
def showLightmapUid (uid : UInt64) : String := "0x" ++ Text.hexadecimal 16 uid.toNat

/-- What is shown of a summary; of the decoration its author is left out. -/
def rows (r : MapSummary) : List Row :=
  Row.list
    [("Version", some (showNat8 r.version)),
     ("Uid", r.uid),
     ("Environment", r.environment),
     ("Author", r.author),
     ("Name", r.name),
     ("Kind", r.kind.map fun kind => kind.label.text),
     ("Locked", r.locked.map showBool),
     ("Password", r.password),
     ("Decoration", r.decoration.map Decoration.id),
     ("DecorationCollection", r.decoration.map Decoration.collection),
     ("Origin", r.origin.map Point.text),
     ("Target", r.target.map Point.text),
     ("Packs", r.packMaskName),
     ("MapType", r.mapType),
     ("MapStyle", r.mapStyle),
     ("LightmapCacheUid", r.lightmapCacheUid.map showLightmapUid),
     ("LightmapVersion", r.lightmapVersion.map showNat8),
     ("TitleId", r.titleId)]

/-- The JSON form of a summary; the mask of packs is an array of octets. -/
def toJson (r : MapSummary) : Json :=
  let decoration (d : Decoration) : Json :=
    .object
      [("id", .string d.id), ("collection", .string d.collection), ("author", .string d.author)]
  .object
    [("version", jsonNat8 r.version),
     ("uid", .option .string r.uid),
     ("environment", .option .string r.environment),
     ("author", .option .string r.author),
     ("name", .option .string r.name),
     ("kind", .option (fun kind => kind.label.toJson) r.kind),
     ("locked", .option .bool r.locked),
     ("password", .option .string r.password),
     ("decoration", .option decoration r.decoration),
     ("origin", .option Point.toJson r.origin),
     ("target", .option Point.toJson r.target),
     ("pack_mask", .option (fun mask => .array (mask.toOctets.map jsonNat8)) r.packMask),
     ("map_type", .option .string r.mapType),
     ("map_style", .option .string r.mapStyle),
     ("lightmap_cache_uid", .option jsonNat64 r.lightmapCacheUid),
     ("lightmap_version", .option jsonNat8 r.lightmapVersion),
     ("title_id", .option .string r.titleId)]

end MapSummary

/-! ## Thumbnail -/

/-- The picture of a map and the comments on it. -/
structure Thumbnail where
  version : UInt32 := 0
  size : Option UInt32 := none
  /-- The octets of the picture. -/
  data : List UInt8 := []
  comments : Option String := none
  deriving DecidableEq, Repr

namespace Thumbnail

/-- The marker in front of the picture. -/
def pictureOpen : String := "<Thumbnail.jpg>"

/-- The marker behind the picture. -/
def pictureClose : String := "</Thumbnail.jpg>"

/-- The marker in front of the comments. -/
def commentsOpen : String := "<Comments>"

/-- The marker behind the comments. -/
def commentsClose : String := "</Comments>"

/-- Reads the picture and the comments, unless the version is zero. -/
def decoder : Decoder (Draft Thumbnail) Unit := do
  let version ← Decoder.read .nat32
  Decoder.store fun r => { r with version }
  if version = 0 then pure ()
  else
    let size ← Decoder.read .nat32
    Decoder.store fun r => { r with size := some size }
    Decoder.tag pictureOpen
    let data ← Decoder.octets size.toNat
    Decoder.store fun r => { r with data }
    Decoder.tag pictureClose
    Decoder.tag commentsOpen
    let comments ← Decoder.read .string
    Decoder.store fun r => { r with comments := some comments }
    Decoder.tag commentsClose

/-- What is shown of a thumbnail: not the picture itself, but its size. -/
def rows (r : Thumbnail) : List Row :=
  Row.list
    [("Version", some (showNat32 r.version)),
     ("ThumbnailSize", r.size.map showNat32),
     ("Comments", r.comments)]

/-- The picture is not part of the JSON form. -/
def toJson (r : Thumbnail) : Json :=
  .object
    [("version", jsonNat32 r.version),
     ("size", .option jsonNat32 r.size),
     ("comments", .option .string r.comments)]

end Thumbnail

/-! ## Author -/

/-- Who made a map or drove a replay. -/
structure Author where
  version : UInt32 := 0
  authorVersion : Option UInt32 := none
  login : Option String := none
  nick : Option String := none
  zone : Option String := none
  extra : Option String := none
  deriving DecidableEq, Repr

namespace Author

/-- All fields are there in every version. -/
def layout : Layout Author :=
  .plain
    [.field .nat32 fun v r => { r with version := v },
     .field .nat32 fun v r => { r with authorVersion := some v },
     .field .string fun v r => { r with login := some v },
     .field .string fun v r => { r with nick := some v },
     .field .string fun v r => { r with zone := some v },
     .field .string fun v r => { r with extra := some v }]

/-- What is shown of an author. -/
def rows (r : Author) : List Row :=
  Row.list
    [("Version", some (showNat32 r.version)),
     ("AuthorVersion", r.authorVersion.map showNat32),
     ("Login", r.login),
     ("Nick", r.nick),
     ("Zone", r.zone),
     ("Extra", r.extra)]

/-- The JSON form of an author. -/
def toJson (r : Author) : Json :=
  .object
    [("version", jsonNat32 r.version),
     ("author_version", .option jsonNat32 r.authorVersion),
     ("login", .option .string r.login),
     ("nick", .option .string r.nick),
     ("zone", .option .string r.zone),
     ("extra", .option .string r.extra)]

end Author

/-! ## Regatta -/

/-- The modes of a race of the sailing games. -/
inductive RaceMode where
  | fleet
  | duel
  | team
  | unknown (raw : UInt32)
  deriving DecidableEq, Repr

namespace RaceMode

/-- The mode with a number. -/
def ofRaw (raw : UInt32) : RaceMode :=
  match raw.toNat with
  | 0 => fleet
  | 1 => duel
  | 2 => team
  | _ => unknown raw

/-- How a mode is called; a duel is shown as a match. -/
def label : RaceMode → Label
  | fleet => .named "Fleet"
  | duel => .named "Match"
  | team => .named "Team"
  | unknown raw => .numbered raw.toNat

end RaceMode

/-- The parameters of a race of the sailing games. -/
structure Regatta where
  version : UInt8 := 0
  raceMode : Option RaceMode := none
  laps : Option UInt32 := none
  windDirection : Option UInt32 := none
  windSpeed : Option Binary32 := none
  buoys : Option UInt32 := none
  deriving DecidableEq, Repr

namespace Regatta

/-- The mode and the laps, then the wind, then the buoys. -/
def layout : Layout Regatta where
  base := [.field .nat8 fun v r => { r with version := v }]
  version r := r.version.toNat
  layers :=
    [⟨.all,
      [.field .nat32 fun v r => { r with raceMode := some (.ofRaw v) },
       .field .nat32 fun v r => { r with laps := some v }]⟩,
     ⟨.since 1,
      [.field .nat32 fun v r => { r with windDirection := some v },
       .field .real fun v r => { r with windSpeed := some v }]⟩,
     ⟨.since 2, [.field .nat32 fun v r => { r with buoys := some v }]⟩]

/-- What is shown of a race. -/
def rows (r : Regatta) : List Row :=
  Row.list
    [("Version", some (showNat8 r.version)),
     ("RaceMode", r.raceMode.map fun mode => mode.label.text),
     ("Laps", r.laps.map showNat32),
     ("WindDirection", r.windDirection.map showNat32),
     ("WindSpeed", r.windSpeed.map Binary32.positional),
     ("Buoys", r.buoys.map showNat32)]

/-- The JSON form of a race. -/
def toJson (r : Regatta) : Json :=
  .object
    [("version", jsonNat8 r.version),
     ("race_mode", .option (fun mode => mode.label.toJson) r.raceMode),
     ("laps", .option jsonNat32 r.laps),
     ("wind_direction", .option jsonNat32 r.windDirection),
     ("wind_speed", .option .real r.windSpeed),
     ("buoys", .option jsonNat32 r.buoys)]

end Regatta
end GameBox
