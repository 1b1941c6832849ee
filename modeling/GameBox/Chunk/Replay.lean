import GameBox.Chunk.Layout
import GameBox.Chunk.Row
import GameBox.Time.Race

/-!
# Chunks of replays and profiles

* `ReplaySummary`: the map that was driven on, the driver and the best time.
* `PlayerProfile`: the account of a player.

Each record has its layout, its rows and its JSON form.
-/

namespace GameBox

/-- The map, the driver and the best time of a replay. -/
structure ReplaySummary where
  version : UInt32 := 0
  mapUid : Option String := none
  environment : Option String := none
  mapAuthor : Option String := none
  bestTime : Option UInt32 := none
  nickname : Option String := none
  login : Option String := none
  titleId : Option String := none
  deriving DecidableEq, Repr

namespace ReplaySummary

/-- The oldest versions have nothing but their version. -/
def layout : Layout ReplaySummary where
  base := [.field .nat32 fun v r => { r with version := v }]
  version r := r.version.toNat
  layers :=
    [⟨.since 2,
      [.name fun v r => { r with mapUid := some v },
       .name fun v r => { r with environment := some v },
       .name fun v r => { r with mapAuthor := some v },
       .field .nat32 fun v r => { r with bestTime := some v },
       .field .string fun v r => { r with nickname := some v }]⟩,
     ⟨.since 6, [.field .string fun v r => { r with login := some v }]⟩,
     ⟨.since 8, [.unused .nat8, .name fun v r => { r with titleId := some v }]⟩]

/-- What is shown of a replay. -/
def rows (r : ReplaySummary) : List Row :=
  Row.list
    [("Version", some (showNat32 r.version)),
     ("MapUid", r.mapUid),
     ("Environment", r.environment),
     ("MapAuthor", r.mapAuthor),
     ("BestTime", r.bestTime.map RaceTime.annotate),
     ("Nickname", r.nickname),
     ("Login", r.login),
     ("TitleId", r.titleId)]

/-- The JSON form of a replay. -/
def toJson (r : ReplaySummary) : Json :=
  .object
    [("version", jsonNat32 r.version),
     ("map_uid", .option .string r.mapUid),
     ("environment", .option .string r.environment),
     ("map_author", .option .string r.mapAuthor),
     ("best_time", .option jsonNat32 r.bestTime),
     ("nickname", .option .string r.nickname),
     ("login", .option .string r.login),
     ("title_id", .option .string r.titleId)]

end ReplaySummary

/-- The account of a player. -/
structure PlayerProfile where
  version : UInt32 := 0
  login : Option String := none
  supportKey : Option String := none
  deriving DecidableEq, Repr

namespace PlayerProfile

/-- The login, then the key. -/
def layout : Layout PlayerProfile where
  base := [.field .nat32 fun v r => { r with version := v }]
  version r := r.version.toNat
  layers :=
    [⟨.all, [.field .string fun v r => { r with login := some v }]⟩,
     ⟨.since 1, [.field .string fun v r => { r with supportKey := some v }]⟩]

/-- What is shown of a profile. -/
def rows (r : PlayerProfile) : List Row :=
  Row.list
    [("Version", some (showNat32 r.version)), ("Login", r.login),
     ("OnlineSupportKey", r.supportKey)]

/-- The JSON form of a profile. -/
def toJson (r : PlayerProfile) : Json :=
  .object
    [("version", jsonNat32 r.version),
     ("login", .option .string r.login),
     ("online_support_key", .option .string r.supportKey)]

end PlayerProfile
end GameBox
